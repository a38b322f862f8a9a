import ServerLink.Json.Shape

/-!
# Capabilities

* `clientCapabilities` — what the client tells the server it can do.
* `handshakeShape` — the form of the server's answer to the handshake: its capabilities, and perhaps
  its name and version.
-/

namespace ServerLink.Editor

/-- An object of fields that stand in ascending order of their names. -/
def fields (l : List (String × Json)) : Json := .obj l

/-- What the client can do. -/
def clientCapabilities : Json :=
  fields [
    ("textDocument", fields [
      ("completion", fields []),
      ("definition", fields [("dynamicRegistration", .bool false), ("linkSupport", .bool false)]),
      ("hover", fields [
        ("contentFormat", .arr [.str "markdown", .str "plaintext"]),
        ("dynamicRegistration", .bool false)]),
      ("inlayHint", fields []),
      ("publishDiagnostics", fields []),
      ("synchronization", fields [
        ("didSave", .bool true),
        ("dynamicRegistration", .bool false),
        ("willSave", .bool false),
        ("willSaveWaitUntil", .bool false)])]),
    ("window", fields [("workDoneProgress", .bool true)]),
    ("workspace", fields [
      ("configuration", .bool true),
      ("didChangeWatchedFiles", fields [
        ("dynamicRegistration", .bool false),
        ("relativePatternSupport", .bool false)]),
      ("workspaceFolders", .bool true)])]

/-! ## What the server can do -/

/-- A field that may be absent. -/
def maybe (name : String) (form : Shape) : String × Shape := (name, .optional form)

/-- Whether the server reports progress. -/
def progress : String × Shape := maybe "workDoneProgress" .truth

/-- Yes, no, or options. -/
def yesNoOr (name : String) (options : List Shape) : Shape := .choice name (.truth :: options)

/-- Yes, no, or one set of options. -/
def oneOf (options : Shape) : Shape := yesNoOr "OneOf" [options]

/-- Options about progress only. -/
def progressOnly (name : String) : Shape := .mapping name [progress]

/-- Options of a capability that is registered for some documents. -/
def registration (name : String) : Shape :=
  .record name [maybe "documentSelector" (.listOf .any), maybe "id" .text]

/-- How documents are kept in step. -/
def syncShape : Shape :=
  .choice "TextDocumentSyncCapability" [
    .integer32,
    .record "TextDocumentSyncOptions" [
      maybe "openClose" .truth,
      maybe "change" .integer32,
      maybe "willSave" .truth,
      maybe "willSaveWaitUntil" .truth,
      maybe "save" (yesNoOr "TextDocumentSyncSaveOptions" [
        .record "SaveOptions" [maybe "includeText" .truth]])]]

/-- How notebooks are kept in step. -/
def notebookShape : Shape :=
  .choice "OneOf" [
    .mapping "NotebookDocumentSyncOptions" [
      ("notebookSelector", .listOf .any),
      maybe "save" .truth]]

/-- What a file operation is reported for. -/
def fileOperation : Shape :=
  .record "FileOperationRegistrationOptions" [
    ("filters", .listOf (.record "FileOperationFilter" [
      maybe "scheme" .text,
      ("pattern", .record "FileOperationPattern" [
        ("glob", .text),
        maybe "matches" .text,
        maybe "options" (.record "FileOperationPatternOptions" [maybe "ignoreCase" .truth])])]))]

/-- What the server does with a workspace. -/
def workspaceShape : Shape :=
  .record "WorkspaceServerCapabilities" [
    maybe "workspaceFolders" (.record "WorkspaceFoldersServerCapabilities" [
      maybe "supported" .truth,
      maybe "changeNotifications" (.choice "OneOf" [.truth, .text])]),
    maybe "fileOperations" (.record "WorkspaceFileOperationsServerCapabilities" [
      maybe "didCreate" fileOperation,
      maybe "willCreate" fileOperation,
      maybe "didRename" fileOperation,
      maybe "willRename" fileOperation,
      maybe "didDelete" fileOperation,
      maybe "willDelete" fileOperation])]

/-- How the server marks tokens. -/
def tokensShape : Shape :=
  .choice "SemanticTokensServerCapabilities" [
    .mapping "SemanticTokensOptions" [
      progress,
      ("legend", .record "SemanticTokensLegend" [
        ("tokenTypes", .listOf .text),
        ("tokenModifiers", .listOf .text)]),
      maybe "range" .truth,
      maybe "full" (yesNoOr "SemanticTokensFullOptions" [
        .record "SemanticTokensFullOptions" [maybe "delta" .truth]])]]

/-- What the server can do. -/
def serverCapabilitiesShape : Shape :=
  .record "ServerCapabilities" [
    maybe "positionEncoding" .text,
    maybe "textDocumentSync" syncShape,
    maybe "notebookDocumentSync" notebookShape,
    maybe "selectionRangeProvider"
      (yesNoOr "SelectionRangeProviderCapability" [progressOnly "SelectionRangeOptions"]),
    maybe "hoverProvider" (yesNoOr "HoverProviderCapability" [progressOnly "HoverOptions"]),
    maybe "completionProvider" (.mapping "CompletionOptions" [
      maybe "resolveProvider" .truth,
      maybe "triggerCharacters" (.listOf .text),
      maybe "allCommitCharacters" (.listOf .text),
      progress,
      maybe "completionItem" (.record "CompletionOptionsCompletionItem" [
        maybe "labelDetailsSupport" .truth])]),
    maybe "signatureHelpProvider" (.mapping "SignatureHelpOptions" [
      maybe "triggerCharacters" (.listOf .text),
      maybe "retriggerCharacters" (.listOf .text),
      progress]),
    maybe "definitionProvider" (oneOf (progressOnly "DefinitionOptions")),
    maybe "typeDefinitionProvider" (yesNoOr "TypeDefinitionProviderCapability"
      [registration "StaticTextDocumentRegistrationOptions"]),
    maybe "implementationProvider" (yesNoOr "ImplementationProviderCapability"
      [registration "StaticTextDocumentRegistrationOptions"]),
    maybe "referencesProvider" (oneOf (progressOnly "ReferencesOptions")),
    maybe "documentHighlightProvider" (oneOf (progressOnly "DocumentHighlightOptions")),
    maybe "documentSymbolProvider" (oneOf (.mapping "DocumentSymbolOptions" [
      maybe "label" .text,
      progress])),
    maybe "workspaceSymbolProvider" (oneOf (.mapping "WorkspaceSymbolOptions" [
      progress,
      maybe "resolveProvider" .truth])),
    maybe "codeActionProvider" (yesNoOr "CodeActionProviderCapability" [
      .mapping "CodeActionOptions" [
        maybe "codeActionKinds" (.listOf .text),
        progress,
        maybe "resolveProvider" .truth]]),
    maybe "codeLensProvider" (.record "CodeLensOptions" [maybe "resolveProvider" .truth]),
    maybe "documentFormattingProvider" (oneOf (progressOnly "DocumentFormattingOptions")),
    maybe "documentRangeFormattingProvider"
      (oneOf (progressOnly "DocumentRangeFormattingOptions")),
    maybe "documentOnTypeFormattingProvider" (.record "DocumentOnTypeFormattingOptions" [
      ("firstTriggerCharacter", .text),
      maybe "moreTriggerCharacter" (.listOf .text)]),
    maybe "renameProvider" (oneOf (.mapping "RenameOptions" [
      maybe "prepareProvider" .truth,
      progress])),
    maybe "documentLinkProvider" (.mapping "DocumentLinkOptions" [
      maybe "resolveProvider" .truth,
      progress]),
    maybe "colorProvider" (yesNoOr "ColorProviderCapability" [.record "ColorProviderOptions" []]),
    maybe "foldingRangeProvider"
      (yesNoOr "FoldingRangeProviderCapability" [.record "FoldingProviderOptions" []]),
    maybe "declarationProvider"
      (yesNoOr "DeclarationCapability" [progressOnly "DeclarationOptions"]),
    maybe "executeCommandProvider" (.mapping "ExecuteCommandOptions" [
      ("commands", .listOf .text),
      progress]),
    maybe "workspace" workspaceShape,
    maybe "callHierarchyProvider"
      (yesNoOr "CallHierarchyServerCapability" [progressOnly "CallHierarchyOptions"]),
    maybe "semanticTokensProvider" tokensShape,
    maybe "monikerProvider" (oneOf (.choice "MonikerServerCapabilities"
      [progressOnly "MonikerOptions"])),
    maybe "linkedEditingRangeProvider" (yesNoOr "LinkedEditingRangeServerCapabilities"
      [progressOnly "LinkedEditingRangeOptions"]),
    maybe "inlineValueProvider" (oneOf (.choice "InlineValueServerCapabilities"
      [progressOnly "InlineValueOptions"])),
    maybe "inlayHintProvider" (oneOf (.choice "InlayHintServerCapabilities" [
      .mapping "InlayHintOptions" [progress, maybe "resolveProvider" .truth]])),
    maybe "diagnosticProvider" (.choice "DiagnosticServerCapabilities" [
      .mapping "DiagnosticOptions" [
        maybe "identifier" .text,
        ("interFileDependencies", .truth),
        ("workspaceDiagnostics", .truth),
        progress]]),
    maybe "experimental" .any]

/-- The form of the server's answer to the handshake. -/
def handshakeShape : Shape :=
  .record "InitializeResult" [
    ("capabilities", serverCapabilitiesShape),
    maybe "serverInfo" (.record "ServerInfo" [("name", .text), maybe "version" .text])]

end ServerLink.Editor
