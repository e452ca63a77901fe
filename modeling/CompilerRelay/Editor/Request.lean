import CompilerRelay.Editor.Item

/-!
Requests that are known but not offered.

Their parameters are checked before they are refused, so an editor that sends
the wrong ones learns about those first.
-/

namespace CompilerRelay
namespace EditorRequest

open Check Item

/-- A document by its URI, as it is given in a field of its own. -/
def document : Form Unit :=
  field "textDocument" (record "TextDocumentIdentifier" [field "uri" uri])

/-- The document and the position that questions share. -/
def place : Form Unit :=
  fields [
    field "textDocument"
      ((fields [field "uri" uri]).decodeWith .ofSequence "struct TextDocumentIdentifier"),
    field "position" (ofDecoder (Position.form.decodeWith .ofSequence "struct Position"))]

/-- The token for progress. -/
def progress : Form Unit :=
  fields [optional "workDoneToken" label]

/-- The token for parts of an answer. -/
def partialResult : Form Unit :=
  fields [optional "partialResultToken" label]

def spot : Form Unit :=
  field "range" range

/-- A question about a place. -/
def about (name : String) (own : List (Form Unit)) (tokens : List (Form Unit)) : Check :=
  sharing name own (place :: tokens)

/-- A question about something else, whose answer may come in parts. -/
def inquiry (name : String) (own : List (Form Unit)) : Check :=
  sharing name own [progress, partialResult]

/-- An operation on several files. -/
def files (name item : String) (names : List String) : Check :=
  record name [field "files" (listOf (record item (names.map fun name => field name text)))]

def completionContext : Check :=
  record "CompletionContext" [field "triggerKind" code, optional "triggerCharacter" text]

def signatureContext : Check :=
  record "SignatureHelpContext" [
    field "triggerKind" code,
    optional "triggerCharacter" text,
    field "isRetrigger" flag,
    optional "activeSignatureHelp" signatureHelp]

def codeActionContext : Check :=
  record "CodeActionContext" [
    field "diagnostics" (listOf diagnostic),
    optional "only" (listOf text),
    optional "triggerKind" code]

def color : Check :=
  record "Color"
    [field "red" fraction, field "green" fraction, field "blue" fraction, field "alpha" fraction]

/-- What goes before the change of a document is saved. -/
def willSave : Check :=
  record "WillSaveTextDocumentParams" [document, field "reason" code]

/-- The parameters of each request, by its method. -/
def byMethod : List (String × Check) := [
  ("textDocument/willSaveWaitUntil", willSave),
  ("textDocument/declaration", about "GotoDefinitionParams" [] [progress, partialResult]),
  ("textDocument/typeDefinition", about "GotoDefinitionParams" [] [progress, partialResult]),
  ("textDocument/implementation", about "GotoDefinitionParams" [] [progress, partialResult]),
  ("textDocument/references",
    about "ReferenceParams"
      [field "context" (record "ReferenceContext" [field "includeDeclaration" flag])]
      [progress, partialResult]),
  ("textDocument/prepareCallHierarchy", about "CallHierarchyPrepareParams" [] [progress]),
  ("callHierarchy/incomingCalls",
    inquiry "CallHierarchyIncomingCallsParams" [field "item" callItem]),
  ("callHierarchy/outgoingCalls",
    inquiry "CallHierarchyOutgoingCallsParams" [field "item" callItem]),
  ("textDocument/prepareTypeHierarchy", about "TypeHierarchyPrepareParams" [] [progress]),
  ("typeHierarchy/supertypes",
    inquiry "TypeHierarchySupertypesParams" [field "item" typeItem]),
  ("typeHierarchy/subtypes", inquiry "TypeHierarchySubtypesParams" [field "item" typeItem]),
  ("textDocument/documentHighlight",
    about "DocumentHighlightParams" [] [progress, partialResult]),
  ("textDocument/documentLink", inquiry "DocumentLinkParams" [document]),
  ("documentLink/resolve", documentLink),
  ("textDocument/codeLens", inquiry "CodeLensParams" [document]),
  ("codeLens/resolve", codeLens),
  ("textDocument/foldingRange", inquiry "FoldingRangeParams" [document]),
  ("textDocument/selectionRange",
    inquiry "SelectionRangeParams"
      [document, field "positions" (listOf (ofDecoder Position.decode))]),
  ("textDocument/documentSymbol", inquiry "DocumentSymbolParams" [document]),
  ("textDocument/semanticTokens/full", inquiry "SemanticTokensParams" [document]),
  ("textDocument/semanticTokens/full/delta",
    inquiry "SemanticTokensDeltaParams" [document, field "previousResultId" text]),
  ("textDocument/semanticTokens/range", inquiry "SemanticTokensRangeParams" [document, spot]),
  ("textDocument/inlineValue",
    sharing "InlineValueParams"
      [document, spot, field "context"
        (record "InlineValueContext" [field "frameId" code, field "stoppedLocation" range])]
      [progress]),
  ("textDocument/inlayHint", sharing "InlayHintParams" [document, spot] [progress]),
  ("inlayHint/resolve", inlayHint),
  ("textDocument/moniker", about "MonikerParams" [] [progress, partialResult]),
  ("textDocument/completion",
    about "CompletionParams" [optional "context" completionContext] [progress, partialResult]),
  ("completionItem/resolve", completionItem),
  ("textDocument/diagnostic",
    inquiry "DocumentDiagnosticParams"
      [document, optional "identifier" text, optional "previousResultId" text]),
  ("workspace/diagnostic",
    inquiry "WorkspaceDiagnosticParams"
      [optional "identifier" text, field "previousResultIds" (listOf
        (record "PreviousResultId" [field "uri" uri, field "value" text]))]),
  ("textDocument/signatureHelp",
    about "SignatureHelpParams" [optional "context" signatureContext] [progress]),
  ("textDocument/codeAction",
    inquiry "CodeActionParams" [document, spot, field "context" codeActionContext]),
  ("codeAction/resolve", codeAction),
  ("textDocument/documentColor", inquiry "DocumentColorParams" [document]),
  ("textDocument/colorPresentation",
    inquiry "ColorPresentationParams" [document, field "color" color, spot]),
  ("textDocument/formatting",
    sharing "DocumentFormattingParams" [document, field "options" formattingOptions] [progress]),
  ("textDocument/rangeFormatting",
    sharing "DocumentRangeFormattingParams"
      [document, spot, field "options" formattingOptions] [progress]),
  ("textDocument/onTypeFormatting",
    about "DocumentOnTypeFormattingParams"
      [field "ch" text, field "options" formattingOptions] []),
  ("textDocument/rename", about "RenameParams" [field "newName" text] [progress]),
  ("textDocument/prepareRename",
    record "TextDocumentPositionParams"
      [document, field "position" (ofDecoder Position.decode)]),
  ("textDocument/linkedEditingRange", about "LinkedEditingRangeParams" [] [progress]),
  ("workspace/symbol",
    sharing "WorkspaceSymbolParams" [field "query" text] [partialResult, progress]),
  ("workspaceSymbol/resolve", workspaceSymbol),
  ("workspace/willCreateFiles", files "CreateFilesParams" "FileCreate" ["uri"]),
  ("workspace/willRenameFiles", files "RenameFilesParams" "FileRename" ["oldUri", "newUri"]),
  ("workspace/willDeleteFiles", files "DeleteFilesParams" "FileDelete" ["uri"])]

end EditorRequest
end CompilerRelay
