import CompilerRelay.Editor.Range
import CompilerRelay.Json.Check

/-!
Things that an editor hands back.

An editor may ask about things that a server once offered: items of a list,
edits, links and the like.  This program offers none of them, so they are only
checked.
-/

namespace CompilerRelay
namespace Item

open Check

def uri : Check :=
  ofDecoder Uri.decode

def range : Check :=
  ofDecoder Range.decode

def location : Check :=
  ofDecoder Location.decode

/-- A number or a name. -/
def label : Check :=
  Decoder.firstOf "NumberOrString" [code, text]

/-- A text in one of the forms of texts. -/
def markup : Check :=
  record "MarkupContent" [field "kind" (oneOf ["plaintext", "markdown"]), field "value" text]

/-- A plain text, or one in another form. -/
def richText (name : String) : Check :=
  Decoder.firstOf name [text, markup]

def command : Check :=
  record "Command"
    [field "title" text, field "command" text, optional "arguments" (listOf anything)]

/-! Changes of texts and files. -/

def textEdit : Check :=
  record "TextEdit" [field "range" range, field "newText" text]

/-- A change with the note it is explained by. -/
def annotatedEdit : Check :=
  sharing "AnnotatedTextEdit" [field "annotationId" text]
    [fields [field "range" range, field "newText" text]]

def documentEdit : Check :=
  record "TextDocumentEdit" [
    field "textDocument" (record "OptionalVersionedTextDocumentIdentifier"
      [field "uri" uri, optional "version" code]),
    field "edits" (listOf (Decoder.firstOf "OneOf" [textEdit, annotatedEdit]))]

/-- What a change does when a file is there already. -/
def overwriting (name : String) : Check :=
  record name [optional "overwrite" flag, optional "ignoreIfExists" flag]

/-- The fields of an operation on a file, by its kind. -/
def fileOperationFields : String → Option (Form Unit)
  | "create" => some (fields [
      field "uri" uri,
      optional "options" (overwriting "CreateFileOptions"),
      optional "annotationId" text])
  | "rename" => some (fields [
      field "oldUri" uri,
      field "newUri" uri,
      optional "options" (overwriting "RenameFileOptions"),
      optional "annotationId" text])
  | "delete" => some (fields [
      field "uri" uri,
      optional "options" (record "DeleteFileOptions" [
        optional "recursive" flag,
        optional "ignoreIfNotExists" flag,
        optional "annotationId" text])])
  | _ => none

/-- An operation on a file, whose kind is among its members or comes first. -/
def fileOperation : Check
  | .obj members => do
    let kind ← match Json.find? "kind" members with
      | some kind => Decoder.string kind
      | none => .error (.missingField "kind")
    let form ← formOf kind
    form.decodeMembers (members.filter fun member => member.1 != "kind")
  | .arr (kind :: elements) => do
    let form ← formOf (← Decoder.string kind)
    form.decodeElements .ofSequence "struct variant" elements
  | other => Decoder.wrongType "internally tagged enum ResourceOp" other
where
  formOf (kind : String) : Except DecodeError (Form Unit) :=
    match fileOperationFields kind with
    | some form => .ok form
    | none => .error (.unknownVariant kind ["create", "rename", "delete"])

/-- Changes of several documents. -/
def documentChanges : Check :=
  Decoder.firstOf "DocumentChanges" [
    listOf documentEdit,
    listOf (Decoder.firstOf "DocumentChangeOperation" [fileOperation, documentEdit])]

/-- Changes listed by the documents that they are of. -/
def changesByUri : Check
  | .obj members =>
    members.forM fun member => do
      uri (.str member.1)
      listOf textEdit member.2
  | other => Decoder.wrongType "map" other

/-- An object whose values are all of one kind. -/
def mapOf (check : Check) : Check
  | .obj members => members.forM fun member => check member.2
  | other => Decoder.wrongType "a map" other

def workspaceEdit : Check :=
  record "WorkspaceEdit" [
    trailing "changes" (ofDecoder (Decoder.option changesByUri)),
    optional "documentChanges" documentChanges,
    optional "changeAnnotations" (mapOf (record "ChangeAnnotation" [
      field "label" text,
      optional "needsConfirmation" flag,
      optional "description" text]))]

/-! Items of lists. -/

/-- A place in the calls or in the types of a program, with its tags. -/
def hierarchyItem (name : String) (tags : Check) : Check :=
  record name [
    field "name" text,
    field "kind" code,
    optional "tags" tags,
    optional "detail" text,
    field "uri" uri,
    field "range" range,
    field "selectionRange" range,
    optional "data" anything]

def callItem : Check :=
  hierarchyItem "CallHierarchyItem" (listOf code)

def typeItem : Check :=
  hierarchyItem "TypeHierarchyItem" code

def documentLink : Check :=
  record "DocumentLink" [
    field "range" range,
    optional "target" uri,
    optional "tooltip" text,
    optional "data" anything]

def codeLens : Check :=
  record "CodeLens"
    [field "range" range, optional "command" command, optional "data" anything]

def inlayHintPart : Check :=
  record "InlayHintLabelPart" [
    field "value" text,
    optional "tooltip" (richText "InlayHintLabelPartTooltip"),
    optional "location" location,
    optional "command" command]

def inlayHint : Check :=
  record "InlayHint" [
    field "position" (ofDecoder Position.decode),
    field "label" (Decoder.firstOf "InlayHintLabel" [text, listOf inlayHintPart]),
    optional "kind" code,
    optional "textEdits" (listOf textEdit),
    optional "tooltip" (richText "InlayHintTooltip"),
    optional "paddingLeft" flag,
    optional "paddingRight" flag,
    optional "data" anything]

def completionEdit : Check :=
  Decoder.firstOf "CompletionTextEdit" [
    textEdit,
    record "InsertReplaceEdit" [
      field "newText" text,
      field "insert" range,
      field "replace" range]]

def completionItem : Check :=
  record "CompletionItem" [
    field "label" text,
    optional "labelDetails" (record "CompletionItemLabelDetails"
      [optional "detail" text, optional "description" text]),
    optional "kind" code,
    optional "detail" text,
    optional "documentation" (richText "Documentation"),
    optional "deprecated" flag,
    optional "preselect" flag,
    optional "sortText" text,
    optional "filterText" text,
    optional "insertText" text,
    optional "insertTextFormat" code,
    optional "insertTextMode" code,
    optional "textEdit" completionEdit,
    optional "additionalTextEdits" (listOf textEdit),
    optional "command" command,
    optional "commitCharacters" (listOf text),
    optional "data" anything,
    optional "tags" (listOf code)]

def parameterInformation : Check :=
  record "ParameterInformation" [
    field "label" (Decoder.firstOf "ParameterLabel" [text, offsets]),
    optional "documentation" (richText "Documentation")]
where
  offsets : Check
    | .arr [first, last] => do
      count first
      count last
    | other => Decoder.wrongType "an array of length 2" other

def signatureInformation : Check :=
  record "SignatureInformation" [
    field "label" text,
    optional "documentation" (richText "Documentation"),
    optional "parameters" (listOf parameterInformation),
    optional "activeParameter" count]

def signatureHelp : Check :=
  record "SignatureHelp" [
    field "signatures" (listOf signatureInformation),
    optional "activeSignature" count,
    optional "activeParameter" count]

def diagnostic : Check :=
  record "Diagnostic" [
    field "range" range,
    optional "severity" code,
    optional "code" label,
    optional "codeDescription" (record "CodeDescription" [field "href" uri]),
    optional "source" text,
    field "message" text,
    optional "relatedInformation" (listOf (record "DiagnosticRelatedInformation"
      [field "location" location, field "message" text])),
    optional "tags" (listOf code),
    optional "data" anything]

def codeAction : Check :=
  record "CodeAction" [
    field "title" text,
    optional "kind" text,
    optional "diagnostics" (listOf diagnostic),
    optional "edit" workspaceEdit,
    optional "command" command,
    optional "isPreferred" flag,
    optional "disabled" (record "CodeActionDisabled" [field "reason" text]),
    optional "data" anything]

def workspaceSymbol : Check :=
  record "WorkspaceSymbol" [
    field "name" text,
    field "kind" code,
    optional "tags" (listOf code),
    optional "containerName" text,
    field "location" (Decoder.firstOf "OneOf"
      [location, record "WorkspaceLocation" [field "uri" uri]]),
    optional "data" anything]

/-- How a text is to be laid out.  Further members say more about it. -/
def formattingOptions : Check
  | .obj members => do
    let own := fields [
      field "tabSize" count,
      field "insertSpaces" flag,
      optional "trimTrailingWhitespace" flag,
      optional "insertFinalNewline" flag,
      optional "trimFinalNewlines" flag]
    own.decodeMembers members
    members.forM fun member =>
      if (own.fields.lookup member.1).isSome then .ok ()
      else Decoder.firstOf "FormattingProperty" [flag, code, text] member.2
  | other => Decoder.wrongType "struct FormattingOptions" other

end Item
end CompilerRelay
