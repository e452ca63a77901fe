import CompilerRelay.Json.Check

/-!
What an editor says it can do.

None of it changes what this program does, but an introduction whose
capabilities are not well formed is refused.
-/

namespace CompilerRelay
namespace Capability

open Check

/-- Whether a feature can be registered later on. -/
def dynamic : Form Unit :=
  optional "dynamicRegistration" flag

/-- A feature about which no more is said. -/
def registration : Check :=
  record "DynamicRegistrationClientCapabilities" [dynamic]

/-- A record with one list of names. -/
def propertyNames (name : String) : Check :=
  record name [field "properties" (listOf text)]

/-- A record that says whether everything shown may be asked for again. -/
def refreshed (name : String) : Check :=
  record name [optional "refreshSupport" flag]

/-- The tags that are known, by their codes, or only whether there are any. -/
def tags : Check
  | .null => .ok ()
  | .bool _ => .ok ()
  | other => record "TagSupport" [field "valueSet" (listOf code)] other

/-- A field with the tags that are known. -/
def tagged : Form Unit :=
  trailing "tagSupport" tags

/-- The forms in which texts may be given. -/
def markupKind : Check :=
  oneOf ["plaintext", "markdown"]

/-- Kinds of symbols, by their codes. -/
def symbolKinds : Check :=
  record "SymbolKindCapability" [optional "valueSet" (listOf code)]

/-! What concerns the project as a whole. -/

def workspaceEdit : Check :=
  record "WorkspaceEditClientCapabilities" [
    optional "documentChanges" flag,
    optional "resourceOperations" (listOf (oneOf ["create", "rename", "delete"])),
    optional "failureHandling"
      (oneOf ["abort", "transactional", "textOnlyTransactional", "undo"]),
    optional "normalizesLineEndings" flag,
    optional "changeAnnotationSupport"
      (record "ChangeAnnotationWorkspaceEditClientCapabilities" [optional "groupsOnLabel" flag])]

def watchedFiles : Check :=
  record "DidChangeWatchedFilesClientCapabilities"
    [dynamic, optional "relativePatternSupport" flag]

def workspaceSymbol : Check :=
  record "WorkspaceSymbolClientCapabilities" [
    dynamic,
    optional "symbolKind" symbolKinds,
    tagged,
    optional "resolveSupport" (propertyNames "WorkspaceSymbolResolveSupportCapability")]

def fileOperations : Check :=
  record "WorkspaceFileOperationsClientCapabilities" [
    dynamic,
    optional "didCreate" flag,
    optional "willCreate" flag,
    optional "didRename" flag,
    optional "willRename" flag,
    optional "didDelete" flag,
    optional "willDelete" flag]

def workspace : Check :=
  record "WorkspaceClientCapabilities" [
    optional "applyEdit" flag,
    optional "workspaceEdit" workspaceEdit,
    optional "didChangeConfiguration" registration,
    optional "didChangeWatchedFiles" watchedFiles,
    optional "symbol" workspaceSymbol,
    optional "executeCommand" registration,
    optional "workspaceFolders" flag,
    optional "configuration" flag,
    optional "semanticTokens" (refreshed "SemanticTokensWorkspaceClientCapabilities"),
    optional "codeLens" (refreshed "CodeLensWorkspaceClientCapabilities"),
    optional "fileOperations" fileOperations,
    optional "inlineValue" (refreshed "InlineValueWorkspaceClientCapabilities"),
    optional "inlayHint" (refreshed "InlayHintWorkspaceClientCapabilities"),
    optional "diagnostic" (refreshed "DiagnosticWorkspaceClientCapabilities")]

/-! What concerns single documents. -/

def synchronization : Check :=
  record "TextDocumentSyncClientCapabilities" [
    dynamic,
    optional "willSave" flag,
    optional "willSaveWaitUntil" flag,
    optional "didSave" flag]

def completionItem : Check :=
  record "CompletionItemCapability" [
    optional "snippetSupport" flag,
    optional "commitCharactersSupport" flag,
    optional "documentationFormat" (listOf markupKind),
    optional "deprecatedSupport" flag,
    optional "preselectSupport" flag,
    tagged,
    optional "insertReplaceSupport" flag,
    optional "resolveSupport" (propertyNames "CompletionItemCapabilityResolveSupport"),
    optional "insertTextModeSupport"
      (record "InsertTextModeSupport" [field "valueSet" (listOf code)]),
    optional "labelDetailsSupport" flag]

def completion : Check :=
  record "CompletionClientCapabilities" [
    dynamic,
    optional "completionItem" completionItem,
    optional "completionItemKind"
      (record "CompletionItemKindCapability" [optional "valueSet" (listOf code)]),
    optional "contextSupport" flag,
    optional "insertTextMode" code,
    optional "completionList"
      (record "CompletionListCapability" [optional "itemDefaults" (listOf text)])]

def hover : Check :=
  record "HoverClientCapabilities" [dynamic, optional "contentFormat" (listOf markupKind)]

def signatureHelp : Check :=
  record "SignatureHelpClientCapabilities" [
    dynamic,
    optional "signatureInformation" (record "SignatureInformationSettings" [
      optional "documentationFormat" (listOf markupKind),
      optional "parameterInformation"
        (record "ParameterInformationSettings" [optional "labelOffsetSupport" flag]),
      optional "activeParameterSupport" flag]),
    optional "contextSupport" flag]

def documentSymbol : Check :=
  record "DocumentSymbolClientCapabilities" [
    dynamic,
    optional "symbolKind" symbolKinds,
    optional "hierarchicalDocumentSymbolSupport" flag,
    tagged]

/-- Going to another place. -/
def goto : Check :=
  record "GotoCapability" [dynamic, optional "linkSupport" flag]

def codeAction : Check :=
  record "CodeActionClientCapabilities" [
    dynamic,
    optional "codeActionLiteralSupport" (record "CodeActionLiteralSupport" [
      field "codeActionKind"
        (record "CodeActionKindLiteralSupport" [field "valueSet" (listOf text)])]),
    optional "isPreferredSupport" flag,
    optional "disabledSupport" flag,
    optional "dataSupport" flag,
    optional "resolveSupport" (propertyNames "CodeActionCapabilityResolveSupport"),
    optional "honorsChangeAnnotations" flag]

def documentLink : Check :=
  record "DocumentLinkClientCapabilities" [dynamic, optional "tooltipSupport" flag]

def rename : Check :=
  record "RenameClientCapabilities" [
    dynamic,
    optional "prepareSupport" flag,
    optional "prepareSupportDefaultBehavior" code,
    optional "honorsChangeAnnotations" flag]

def publishDiagnostics : Check :=
  record "PublishDiagnosticsClientCapabilities" [
    optional "relatedInformation" flag,
    tagged,
    optional "versionSupport" flag,
    optional "codeDescriptionSupport" flag,
    optional "dataSupport" flag]

def foldingRange : Check :=
  record "FoldingRangeClientCapabilities" [
    dynamic,
    optional "rangeLimit" count,
    optional "lineFoldingOnly" flag,
    optional "foldingRangeKind" (record "FoldingRangeKindCapability"
      [optional "valueSet" (listOf (oneOf ["comment", "imports", "region"]))]),
    optional "foldingRange"
      (record "FoldingRangeCapability" [optional "collapsedText" flag])]

/-- Whether the tokens of a whole document may be asked for, and by what differs. -/
def fullTokens : Check :=
  Decoder.firstOf "SemanticTokensFullOptions"
    [flag, (fields [optional "delta" flag]).decodeWith .ofSequence "struct variant"]

def semanticTokens : Check :=
  record "SemanticTokensClientCapabilities" [
    dynamic,
    field "requests" (record "SemanticTokensClientCapabilitiesRequests"
      [optional "range" flag, optional "full" fullTokens]),
    field "tokenTypes" (listOf text),
    field "tokenModifiers" (listOf text),
    field "formats" (listOf text),
    optional "overlappingTokenSupport" flag,
    optional "multilineTokenSupport" flag,
    optional "serverCancelSupport" flag,
    optional "augmentsSyntaxTokens" flag]

def inlayHint : Check :=
  record "InlayHintClientCapabilities"
    [dynamic, optional "resolveSupport" (propertyNames "InlayHintResolveClientCapabilities")]

def textDocument : Check :=
  record "TextDocumentClientCapabilities" [
    optional "synchronization" synchronization,
    optional "completion" completion,
    optional "hover" hover,
    optional "signatureHelp" signatureHelp,
    optional "references" registration,
    optional "documentHighlight" registration,
    optional "documentSymbol" documentSymbol,
    optional "formatting" registration,
    optional "rangeFormatting" registration,
    optional "onTypeFormatting" registration,
    optional "declaration" goto,
    optional "definition" goto,
    optional "typeDefinition" goto,
    optional "implementation" goto,
    optional "codeAction" codeAction,
    optional "codeLens" registration,
    optional "documentLink" documentLink,
    optional "colorProvider" registration,
    optional "rename" rename,
    optional "publishDiagnostics" publishDiagnostics,
    optional "foldingRange" foldingRange,
    optional "selectionRange" (record "SelectionRangeClientCapabilities" [dynamic]),
    optional "linkedEditingRange" registration,
    optional "callHierarchy" registration,
    optional "semanticTokens" semanticTokens,
    optional "moniker" registration,
    optional "typeHierarchy" registration,
    optional "inlineValue" registration,
    optional "inlayHint" inlayHint,
    optional "diagnostic" (record "DiagnosticClientCapabilities"
      [dynamic, optional "relatedDocumentSupport" flag])]

/-! What concerns the editor itself. -/

def window : Check :=
  record "WindowClientCapabilities" [
    optional "workDoneProgress" flag,
    optional "showMessage" (record "ShowMessageRequestClientCapabilities" [
      optional "messageActionItem"
        (record "MessageActionItemCapabilities" [optional "additionalPropertiesSupport" flag])]),
    optional "showDocument" (record "ShowDocumentClientCapabilities" [field "support" flag])]

def general : Check :=
  record "GeneralClientCapabilities" [
    optional "regularExpressions" (record "RegularExpressionsClientCapabilities"
      [field "engine" text, optional "version" text]),
    optional "markdown" (record "MarkdownClientCapabilities" [
      field "parser" text,
      optional "version" text,
      optional "allowedTags" (listOf text)]),
    optional "staleRequestSupport" (record "StaleRequestSupportClientCapabilities"
      [field "cancel" flag, field "retryOnContentModified" (listOf text)]),
    optional "positionEncodings" (listOf text)]

/-- Everything an editor says it can do. -/
def all : Check :=
  record "ClientCapabilities" [
    optional "workspace" workspace,
    optional "textDocument" textDocument,
    optional "window" window,
    optional "general" general,
    optional "experimental" anything]

end Capability
end CompilerRelay
