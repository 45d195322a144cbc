import WinWinCode.Foundation.Fallible
import WinWinCode.Foundation.Paths
import WinWinCode.Foundation.Text

/-!
What a tool request does, as `action_normalizer.rs`, `mcp_resource.rs` and
`process_input.rs` of the execution port observe it, and its comparison with the
intent that was declared for it. The JSON arguments of an MCP request are read by
nobody here, so their type is a parameter; so is the JSON text of a command line.
-/

namespace WinWinCode.ExecutionPort

open Fallible Paths Text

inductive ActionObject where
  | productionCode | test | config | dependency | schema | ci | externalResource
deriving DecidableEq

inductive ActionOperation where
  | create | modify | delete | execute | deploy
deriving DecidableEq

inductive ActionPurpose where
  | diagnose | implement | repair | refactor | verify | migrate

inductive ActionScope where
  | local | module | crossModule | repository | external

inductive ActionRisk where
  | low | medium | high | critical

def ActionObject.asStr : ActionObject → String
  | .productionCode => "production_code"
  | .test => "test"
  | .config => "config"
  | .dependency => "dependency"
  | .schema => "schema"
  | .ci => "ci"
  | .externalResource => "external_resource"

def ActionOperation.asStr : ActionOperation → String
  | .create => "create"
  | .modify => "modify"
  | .delete => "delete"
  | .execute => "execute"
  | .deploy => "deploy"

def ActionScope.asStr : ActionScope → String
  | .local => "local"
  | .module => "module"
  | .crossModule => "cross_module"
  | .repository => "repository"
  | .external => "external"

def ActionRisk.asStr : ActionRisk → String
  | .low => "low"
  | .medium => "medium"
  | .high => "high"
  | .critical => "critical"

structure ActionIntent where
  object : ActionObject
  operation : ActionOperation
  intent : ActionPurpose
  scope : ActionScope
  (targets requirementRefs planRefs : List String)
  expectedEffect : String
  (scopeDelta rollback : Option String)
  executorRisk : ActionRisk

inductive FileOperation where
  | read | create | write | delete | execute
deriving DecidableEq

inductive TestOwner where
  | repositoryExisting | executorWorking | canonicalAcceptance | protectedAdversarial

inductive AssertionEffect where
  | unchanged | strengthened | weakened | unknown

inductive DependencyEffect where
  | none | added | updated | removed
deriving DecidableEq

structure FileAnalysis where
  testOwner : Option TestOwner := none
  assertionEffect : AssertionEffect := .unchanged
  dependencyEffect : DependencyEffect := .none
  publicApiChange : Bool := false
  migrationChange : Bool := false

structure FileRequest where
  operation : FileOperation
  paths : List String
  analysis : FileAnalysis := {}

inductive GitOperation where
  | status | diff | show | stage | commit | branchCreate | merge | rebase | reset | clean | fetch
  | pull | push | clone

structure GitRequest where
  operation : GitOperation
  repositoryPath : String
  refs : List String

structure ShellRequest where
  program : String
  args : List String
  workingDirectory : String

structure NetworkRequest where
  (method url : String)

structure McpRequest (Json : Type) where
  (server tool : String)
  arguments : Json

inductive McpResourceOperation where
  | list | listTemplates | read

def McpResourceOperation.method : McpResourceOperation → String
  | .list => "resources/list"
  | .listTemplates => "resources/templates/list"
  | .read => "resources/read"

structure McpResourceRequest (Json : Type) where
  server : String
  operation : McpResourceOperation
  arguments : Json

structure ProcessInputRequest where
  processId : Int
  (originCallId input : String)

inductive ToolRequest (Json : Type) where
  | file (request : FileRequest)
  | git (request : GitRequest)
  | shell (request : ShellRequest)
  | network (request : NetworkRequest)
  | mcp (request : McpRequest Json)
  | mcpResource (request : McpResourceRequest Json)
  | processInput (request : ProcessInputRequest)

inductive ActionSource where
  | file | git | shell | network | mcp

inductive ObservedFact where
  | fileRead | filePath | testPath | dependencyManifest | dependencyLockfile | configPath
  | schemaPath | ciPath | canonicalTest | protectedTest | assertionStrengthened
  | assertionWeakened | assertionEffectUnknown | dependencyAdded | dependencyUpdated
  | dependencyRemoved | publicApiChanged | migrationChanged | gitRepository | gitRemoteRead
  | gitRemoteWrite | shellCommand | networkRead | networkWrite | mcpCapability
deriving DecidableEq

structure ObservedAction where
  source : ActionSource
  objects : List ActionObject
  operation : ActionOperation
  scope : ActionScope
  targets : List String
  facts : List ObservedFact
  minimumRisk : ActionRisk

inductive IntentMismatchKind where
  | object | operation | scope | target | risk

structure IntentMismatch where
  kind : IntentMismatchKind
  (declared observed explanation : String)

structure IntentComparison where
  agrees : Bool
  mismatches : List IntentMismatch

structure ActionNormalization where
  intent : ActionIntent
  observed : ObservedAction
  comparison : IntentComparison

inductive ActionNormalizationErrorCode where
  | empty | duplicate | invalidPath | invalidReference | invalidMethod | invalidUrl
  | invalidMcpIdentifier

structure ActionNormalizationError where
  code : ActionNormalizationErrorCode
  (field message : String)

abbrev Normalized := Except ActionNormalizationError

/-! Sorted sets and texts. -/

def insertDistinct {Item : Type} [DecidableEq Item] (less : Item → Item → Bool) (item : Item) :
    List Item → List Item
  | [] => [item]
  | head :: rest =>
    if item = head then head :: rest
    else if less item head then item :: head :: rest
    else head :: insertDistinct less item rest

def sortedSet {Item : Type} [DecidableEq Item] (less : Item → Item → Bool) (items : List Item) :
    List Item :=
  items.foldr (insertDistinct less) []

def objectSet : List ActionObject → List ActionObject :=
  sortedSet fun left right => left.ctorIdx < right.ctorIdx

def factSet : List ObservedFact → List ObservedFact :=
  sortedSet fun left right => left.ctorIdx < right.ctorIdx

variable (field value : String) (values : List String) (intent : ActionIntent)

def toLowercase : String := String.ofList (value.toList.map Char.toLower)

def basename : String :=
  String.ofList ((value.toList.splitOnP fun symbol => symbol == '/' || symbol == '\\').getLastD [])

def contains (part value : String) : Bool := decide (part.toList <:+: value.toList)

/-! Validation. -/

def validateText (field value : String) : Normalized Unit := do
  refuse (isBlank value = true) ⟨.empty, field, "must not be blank"⟩
  refuse ('\x00' ∈ value.toList) ⟨.empty, field, "must not contain NUL"⟩

def validateNonBlankValues : Normalized Unit :=
  values.forM (validateText field)

def validateNonEmpty : Normalized Unit := do
  refuse (values = []) ⟨.empty, field, "must not be empty"⟩
  validateNonBlankValues field values

def validateUnique : Normalized Unit :=
  refuse (¬ values.Nodup) ⟨.duplicate, field, "must not contain duplicates"⟩

def validateReferences : Normalized Unit := do
  validateUnique field values
  values.forM fun value => do
    validateText field value
    refuse (value.toList.any isAsciiWhitespace = true)
      ⟨.invalidReference, field, "must contain stable non-whitespace references"⟩

def validateIntent : Normalized Unit := do
  validateNonEmpty "intent.targets" intent.targets
  validateUnique "intent.targets" intent.targets
  validateReferences "intent.requirementRefs" intent.requirementRefs
  validateReferences "intent.planRefs" intent.planRefs
  validateText "intent.expectedEffect" intent.expectedEffect
  intent.scopeDelta.toList.forM (validateText "intent.scopeDelta")
  intent.rollback.toList.forM (validateText "intent.rollback")

/-- The path a text names, with a backslash read as a slash. -/
def requestedPath : Option LexicalPath :=
  LexicalPath.resolve (value.toList.map fun symbol => if symbol == '\\' then '/' else symbol)

def normalizePath (field value : String) : Normalized String := do
  validateText field value
  let path ← okOr (requestedPath value) ⟨.invalidPath, field, "must not escape its root"⟩
  pure (String.ofList path.text)

def splitAtMark (mark : List Char) : List Char → Option (List Char × List Char)
  | [] => none
  | symbol :: rest =>
    if mark.isPrefixOf (symbol :: rest) then some ([], (symbol :: rest).drop mark.length)
    else (splitAtMark mark rest).map fun parts => (symbol :: parts.1, parts.2)

/-- The authority in lower case without the default port of its scheme. -/
def normalizeAuthority (scheme : String) (authority : List Char) : List Char :=
  let lower := authority.map Char.toLower
  if scheme == "http" && ":80".toList.isSuffixOf lower then lower.take (lower.length - 3)
  else if scheme == "https" && ":443".toList.isSuffixOf lower then lower.take (lower.length - 4)
  else lower

def normalizeUrl : Normalized String := do
  validateText "request.url" value
  let (scheme, remainder) ← okOr (splitAtMark "://".toList value.toList)
    ⟨.invalidUrl, "request.url", "must be an absolute HTTP(S) URL"⟩
  let scheme := String.ofList (scheme.map Char.toLower)
  refuse (scheme ≠ "http" ∧ scheme ≠ "https")
    ⟨.invalidUrl, "request.url", "must use http or https"⟩
  let authority := remainder.takeWhile fun symbol => !(['/', '?', '#'].contains symbol)
  refuse (authority = [] ∨ '@' ∈ authority)
    ⟨.invalidUrl, "request.url", "must contain a host and no credentials"⟩
  let suffix := remainder.drop authority.length
  let path := suffix.takeWhile fun symbol => !(['?', '#'].contains symbol)
  pure (scheme ++ "://" ++ String.ofList (normalizeAuthority scheme authority) ++
    (if path.isEmpty then "/" else String.ofList path))

def validateMcpIdentifier (field value : String) : Normalized Unit := do
  validateText field value
  refuse (¬ value.toList.all fun symbol => symbol.isAlphanum || ['.', '_', '-', '/'].contains symbol)
    ⟨.invalidMcpIdentifier, field, "must contain only portable identifier characters"⟩

/-! Classification. -/

structure PathClassification where
  object : ActionObject
  fact : ObservedFact
  lockfile : Bool

def dependencyManifests : List String :=
  ["cargo.toml", "package.json", "deno.json", "deno.jsonc", "pyproject.toml", "requirements.txt",
    "go.mod", "go.sum", "pom.xml", "build.gradle", "build.gradle.kts"]

def dependencyLockfiles : List String :=
  ["cargo.lock", "pnpm-lock.yaml", "package-lock.json", "yarn.lock", "bun.lock", "bun.lockb",
    "poetry.lock", "uv.lock"]

def classifyPath (path : String) : PathClassification :=
  let components := ((toLowercase path).toList.splitOn '/').map String.ofList
  let fileName := components.getLastD ""
  let extension := String.ofList ((fileName.toList.splitOn '.').getLastD [])
  if components.any (["test", "tests", "__tests__", "spec", "specs"].contains ·) ||
      contains ".test." fileName || contains ".spec." fileName ||
      "_test.rs".toList.isSuffixOf fileName.toList || "test_".toList.isPrefixOf fileName.toList then
    ⟨.test, .testPath, false⟩
  else if dependencyManifests.contains fileName || dependencyLockfiles.contains fileName then
    ⟨.dependency, .dependencyManifest, dependencyLockfiles.contains fileName⟩
  else if [".github", "workflows"].isPrefixOf components || components.contains ".gitlab-ci" ||
      [".gitlab-ci.yml", "jenkinsfile"].contains fileName then ⟨.ci, .ciPath, false⟩
  else if components.contains "schema" || contains ".schema." fileName ||
      ["openapi.json", "openapi.yaml", "openapi.yml"].contains fileName then
    ⟨.schema, .schemaPath, false⟩
  else if components.contains "config" || components.contains "configs" ||
      fileName.toList.head? == some '.' || ["toml", "yaml", "yml", "ini", "conf"].contains extension then
    ⟨.config, .configPath, false⟩
  else ⟨.productionCode, .filePath, false⟩

def classifyShell (program : String) (args : List String) :
    ActionObject × ActionOperation × Option ObservedFact :=
  let first := args.headD ""
  if ["del", "erase", "mkfs", "rm", "rmdir", "shred", "unlink"].contains program ||
      program == "git" && ["clean", "reset"].contains first then (.productionCode, .delete, none)
  else if ["pytest", "jest", "vitest", "mocha", "ctest"].contains program ||
      program == "cargo" && first == "test" ||
      ["pnpm", "npm", "yarn", "bun"].contains program &&
        (first == "test" || (args.zip args.tail).contains ("run", "test")) then
    (.test, .execute, some .testPath)
  else if program == "cargo" && ["add", "remove", "update"].contains first ||
      ["pnpm", "npm", "yarn", "bun", "pip", "pip3", "uv", "poetry"].contains program &&
        ["add", "install", "remove", "uninstall", "update"].contains first then
    (.dependency, .modify, some .dependencyUpdated)
  else (.productionCode, .execute, none)

def classifyNamedOperation (name : String) : ActionOperation :=
  let components := name.toList.splitOnP fun symbol => ['.', '/', ':', '-', '_'].contains symbol
  let verb := ((components.find? (!·.isEmpty)).map String.ofList).getD name
  if ["create", "add", "insert"].contains verb then .create
  else if ["update", "write", "edit", "set", "patch"].contains verb then .modify
  else if ["delete", "remove", "destroy"].contains verb then .delete
  else if ["deploy", "publish", "release", "push"].contains verb then .deploy
  else .execute

def minimumRisk (operation : ActionOperation) (facts : List ObservedFact) : ActionRisk :=
  if facts.any ([.canonicalTest, .protectedTest, .assertionWeakened].contains ·) then .critical
  else if operation = .delete ∨ operation = .deploy ∨ facts.any ([.dependencyAdded,
      .dependencyRemoved, .publicApiChanged, .migrationChanged, .gitRemoteWrite,
      .networkWrite].contains ·) then .high
  else if operation = .modify ∨
      facts.any ([.dependencyUpdated, .assertionEffectUnknown].contains ·) then .medium
  else .low

def fileScope (paths : List String) : ActionScope :=
  if paths.any fun path => !path.toList.contains '/' ||
      [.dependency, .ci].contains (classifyPath path).object then .repository
  else if paths.length = 1 then .local
  else
    let modules := paths.map fun path =>
      ((path.toList.dropWhile (· == '/')).splitOn '/').headD []
    if modules.dedup.length = 1 then .module else .crossModule

def shellScope (workingDirectory : String) : ActionScope :=
  if workingDirectory == "." || !workingDirectory.toList.contains '/' then .repository else .module

/-! Observation of each kind of request. -/

def FileOperation.action : FileOperation → ActionOperation
  | .create => .create
  | .write => .modify
  | .delete => .delete
  | .read | .execute => .execute

def FileAnalysis.objects (analysis : FileAnalysis) : List ActionObject :=
  (if analysis.testOwner.isSome then [.test] else []) ++
    if analysis.dependencyEffect = .none then [] else [.dependency]

def FileAnalysis.facts (analysis : FileAnalysis) : List ObservedFact :=
  (if analysis.testOwner.isSome then [.testPath] else []) ++
  (match analysis.testOwner with
    | some .canonicalAcceptance => [.canonicalTest]
    | some .protectedAdversarial => [.protectedTest]
    | _ => []) ++
  (match analysis.assertionEffect with
    | .unchanged => []
    | .strengthened => [.assertionStrengthened]
    | .weakened => [.assertionWeakened]
    | .unknown => [.assertionEffectUnknown]) ++
  (match analysis.dependencyEffect with
    | .none => []
    | .added => [.dependencyAdded]
    | .updated => [.dependencyUpdated]
    | .removed => [.dependencyRemoved]) ++
  (if analysis.publicApiChange then [.publicApiChanged] else []) ++
  if analysis.migrationChange then [.migrationChanged] else []

def fileFacts (request : FileRequest) (targets : List String) : List ObservedFact :=
  factSet (.filePath :: (if request.operation = .read then [.fileRead] else []) ++
    targets.flatMap (fun path =>
      (classifyPath path).fact ::
        if (classifyPath path).lockfile then [.dependencyLockfile] else []) ++
    request.analysis.facts)

def normalizeFile (request : FileRequest) : Normalized ObservedAction := do
  validateNonEmpty "request.paths" request.paths
  let paths ← request.paths.mapM (normalizePath "request.paths")
  let targets := sortedSet (fun left right => decide (left < right)) paths
  let facts := fileFacts request targets
  pure {
    source := .file
    objects := objectSet (targets.map (classifyPath · |>.object) ++ request.analysis.objects)
    operation := request.operation.action
    scope := fileScope targets
    targets := targets
    facts := facts
    minimumRisk := minimumRisk request.operation.action facts }

def GitOperation.action : GitOperation → ActionOperation
  | .status | .diff | .show => .execute
  | .branchCreate | .clone => .create
  | .clean => .delete
  | .push => .deploy
  | .fetch | .pull | .stage | .commit | .merge | .rebase | .reset => .modify

def GitOperation.facts : GitOperation → List ObservedFact
  | .push => [.gitRepository, .gitRemoteWrite]
  | .fetch | .pull => [.gitRepository, .gitRemoteRead]
  | _ => [.gitRepository]

def normalizeGit (request : GitRequest) : Normalized ObservedAction := do
  let repository ← normalizePath "request.repositoryPath" request.repositoryPath
  validateUnique "request.refs" request.refs
  validateNonBlankValues "request.refs" request.refs
  pure {
    source := .git
    objects := [.productionCode]
    operation := request.operation.action
    scope := .repository
    targets := repository :: (request.refs.insertionSort (· ≤ ·)).map ("git-ref:" ++ ·)
    facts := request.operation.facts
    minimumRisk := minimumRisk request.operation.action request.operation.facts }

def normalizeShell (argv : List String → String) (request : ShellRequest) :
    Normalized ObservedAction := do
  validateText "request.program" request.program
  validateNonBlankValues "request.args" request.args
  let workingDirectory ← normalizePath "request.workingDirectory" request.workingDirectory
  let (object, operation, extra) :=
    classifyShell (toLowercase (basename request.program)) request.args
  let facts := factSet (.shellCommand :: extra.toList)
  pure {
    source := .shell
    objects := [object]
    operation := operation
    scope := shellScope workingDirectory
    targets := ["cwd:" ++ workingDirectory, "argv:" ++ argv (request.program :: request.args)]
    facts := facts
    minimumRisk := minimumRisk operation facts }

def classifyMethod (method : String) : ActionOperation × ObservedFact :=
  if ["GET", "HEAD", "OPTIONS"].contains method then (.execute, .networkRead)
  else if method == "DELETE" then (.delete, .networkWrite)
  else if method == "POST" then (.create, .networkWrite)
  else if ["PATCH", "PUT"].contains method then (.modify, .networkWrite)
  else (.execute, .networkWrite)

def normalizeMethod (method : String) : String :=
  String.ofList ((trim method.toList).map Char.toUpper)

def normalizeNetwork (request : NetworkRequest) : Normalized ObservedAction := do
  let method := normalizeMethod request.method
  refuse (method.toList = [] ∨
      ¬ method.toList.all fun symbol => symbol.isUpper || symbol == '-')
    ⟨.invalidMethod, "request.method", "must be an HTTP token"⟩
  let endpoint ← normalizeUrl request.url
  let (operation, fact) := classifyMethod method
  pure {
    source := .network
    objects := [.externalResource]
    operation := operation
    scope := .external
    targets := [method ++ " " ++ endpoint]
    facts := [fact]
    minimumRisk := minimumRisk operation [fact] }

def mcpCapability (server tool : String) : Normalized String := do
  validateMcpIdentifier "request.server" server
  validateMcpIdentifier "request.tool" tool
  pure (toLowercase server ++ "/" ++ toLowercase tool)

def canonicalMcpCapabilityId (server tool : String) : Normalized String := do
  pure ("mcp://" ++ (← mcpCapability server tool))

def canonicalResourceCapabilityId (server : String) (operation : McpResourceOperation) :
    Normalized String := do
  pure ("mcp-resource://" ++ (← mcpCapability server operation.method))

variable {Json : Type}

def normalizeMcp (request : McpRequest Json) : Normalized ObservedAction := do
  let capability ← canonicalMcpCapabilityId request.server request.tool
  let operation := classifyNamedOperation (toLowercase request.tool)
  pure {
    source := .mcp
    objects := [.externalResource]
    operation := operation
    scope := .external
    targets := [capability]
    facts := [.mcpCapability]
    minimumRisk := minimumRisk operation [.mcpCapability] }

def observeResource (request : McpResourceRequest Json) : Normalized ObservedAction := do
  let capability ← canonicalResourceCapabilityId request.server request.operation
  pure {
    source := .mcp
    objects := [.externalResource]
    operation := .execute
    scope := .external
    targets := [capability]
    facts := [.mcpCapability]
    minimumRisk := .low }

def observeProcessInput (request : ProcessInputRequest) : Normalized ObservedAction := do
  refuse (request.processId ≤ 0 ∨ isBlank request.originCallId = true ∨ request.input.isEmpty = true)
    ⟨.empty, "request.processInput", "requires a live process, its origin, and nonempty input"⟩
  pure {
    source := .shell
    objects := [.externalResource]
    operation := .execute
    scope := .external
    targets := ["process:" ++ toString request.processId]
    facts := [.shellCommand]
    minimumRisk := .high }

def normalizeRequest (argv : List String → String) : ToolRequest Json → Normalized ObservedAction
  | .file request => normalizeFile request
  | .git request => normalizeGit request
  | .shell request => normalizeShell argv request
  | .network request => normalizeNetwork request
  | .mcp request => normalizeMcp request
  | .mcpResource request => observeResource request
  | .processInput request => observeProcessInput request

/-! Comparison with the declared intent. -/

def targetIsCovered (declared observed : String) : Bool :=
  let declared := (trim declared.toList).rdropWhile (· == '/')
  declared == ['*'] || declared == observed.toList ||
    (declared.isPrefixOf observed.toList &&
      [some '/', some ':'].contains (observed.toList.drop declared.length).head?)

def objectMismatch (object : ActionObject) : IntentMismatch :=
  ⟨.object, intent.object.asStr, object.asStr, "observed " ++ object.asStr ++
    " action is outside declared " ++ intent.object.asStr ++ " object"⟩

def targetMismatch (target : String) : IntentMismatch :=
  ⟨.target, ",".intercalate intent.targets, target,
    "observed target " ++ target ++ " is outside declared targets"⟩

/-- The mismatches in the order in which the source collects them. -/
def intentMismatches (observed : ObservedAction) : List IntentMismatch :=
  (observed.objects.filter (· ≠ intent.object)).map (objectMismatch intent) ++
  (if observed.operation ≠ intent.operation then
    [⟨.operation, intent.operation.asStr, observed.operation.asStr,
      "observed " ++ observed.operation.asStr ++ " operation differs from declared " ++
        intent.operation.asStr ++ " operation"⟩] else []) ++
  (if intent.scope.ctorIdx < observed.scope.ctorIdx then
    [⟨.scope, intent.scope.asStr, observed.scope.asStr,
      "observed " ++ observed.scope.asStr ++ " scope exceeds declared " ++
        intent.scope.asStr ++ " scope"⟩] else []) ++
  (observed.targets.filter fun target =>
    !intent.targets.any (targetIsCovered · target)).map (targetMismatch intent) ++
  if intent.executorRisk.ctorIdx < observed.minimumRisk.ctorIdx then
    [⟨.risk, intent.executorRisk.asStr, observed.minimumRisk.asStr,
      "observed facts require at least " ++ observed.minimumRisk.asStr ++
        " risk, above declared " ++ intent.executorRisk.asStr ++ " risk"⟩] else []

def compareIntent (observed : ObservedAction) : IntentComparison :=
  ⟨(intentMismatches intent observed).isEmpty, intentMismatches intent observed⟩

def normalizeAction (argv : List String → String) (intent : ActionIntent)
    (request : ToolRequest Json) : Normalized ActionNormalization := do
  validateIntent intent
  let observed ← normalizeRequest argv request
  pure ⟨intent, observed, compareIntent intent observed⟩

end WinWinCode.ExecutionPort
