import ApiDocs.CommonMark.Document
import ApiDocs.Document.Records
import ApiDocs.Record.Codec
import ApiDocs.Record.Verdict
import ApiDocs.Schema.Registry

/-!
# Linting documents

Every surface of every document becomes a record, in the order of the documents. The errors of a
record are the defects of its surface and the violations of its written form.
-/

namespace ApiDocs

structure SourceDoc where
  stem : String
  markdown : String
deriving DecidableEq, Repr

/-- What shapes every record besides the documents. -/
structure LintOptions where
  version : String
  aliases : Aliases
  urls : UrlTemplates

def defaultVersion : String :=
  "0.0.0"

structure LintedApi where
  api : Api
  errors : List String

namespace LintedApi

def valid (linted : LintedApi) : Bool :=
  linted.errors.isEmpty

def report (linted : LintedApi) : String :=
  ApiDocs.report linted.api.name linted.errors

end LintedApi

/-- The record of a draft with the errors of the draft and of its written form. -/
def Draft.finish (draft : Draft) (aliases : Aliases) (urls : UrlTemplates)
    (validator : Validator) : LintedApi :=
  let api := draft.publish aliases urls
  ⟨api, draft.errors ++ validator api.toJson⟩

def Surface.record (surface : Surface) (options : LintOptions) (validator : Validator) :
    LintedApi :=
  (Draft.ofSurface options.version surface).finish options.aliases options.urls validator

def lintBlocks (blocks : List Block) (stem : String) (options : LintOptions)
    (validator : Validator) : List LintedApi :=
  (Surface.ofOutline (Section.ofBlocks blocks) stem).map fun surface =>
    surface.record options validator

def lint (docs : List SourceDoc) (options : LintOptions) (validator : Validator) :
    List LintedApi :=
  docs.flatMap fun doc => lintBlocks (Block.ofText doc.markdown) doc.stem options validator

end ApiDocs
