import Treer.Policy.Document

/-!
# Matching rules against places in the Tree

The functions of `treer-proxy/src/policy_path_match.rs`. Only placed contexts
match: a node outside the Tree satisfies no Tree selector and no condition.
-/

namespace Treer.Policy

open Foundation

/-- `context.filter(|c| c.placed)`. -/
def placedContext (context : Option PolicyTreeContext) : Option PolicyTreeContext :=
  context.filter (·.placed)

/-- A proper extension of the parent by whole components. -/
def below (parent path : String) : Bool :=
  path != parent && (parent == "/" || (Text.stripPrefix path parent).any (Text.startsWith · "/"))

/-- The components of a path, without the empty ones. -/
def pathParts (path : String) : List String :=
  (Text.split path '/').filter (· != "")

/-- The loop of `glob` over the pattern's parts and the path's, in step. -/
def globParts : List String → List String → Bool
  | [], actual => actual.isEmpty
  | part :: rest, actual =>
    if part == "**" then true
    else
      match actual with
      | [] => false
      | value :: values => if part != "*" && value != part then false else globParts rest values

def glob (pattern path : String) : Bool :=
  globParts (pathParts pattern) (pathParts path)

def selectorMatches (selector : Option PolicyTreeSelector)
    (context : Option PolicyTreeContext) : Bool :=
  match selector with
  | none => true
  | some selector =>
    match placedContext context with
    | none => false
    | some context =>
      selector.kind.all (· == context.kind) &&
      selector.name.all (· == context.name) &&
      selector.folderId.all (fun id => context.folderId == some id) &&
      selector.pathEq.all (· == context.path) &&
      selector.pathGlob.all (glob · context.path) &&
      selector.pathPrefix.all fun start =>
        (start.includeSelf && start.path == context.path) || below start.path context.path

def belowContext (target : PolicyTreeContext) (id : Option String) (path : String)
    (strict : Bool) : Bool :=
  match id with
  | some id =>
    (target.ancestorIds.contains id || (target.kind == "folder" && target.nodeId == id)) &&
      (!strict || (target.folderId != some id && !(target.kind == "folder" && target.nodeId == id)))
  | none => path == "/" && (!strict || target.folderPath != "/")

/-- `folder_matches` for a reference that is not a variable. -/
def folderMatchesDirect (reference : PolicyFolderRef) (request : PolicyRequest)
    (target : PolicyTreeContext) (strict : Bool) : Bool :=
  match reference with
  | .variable _ => false
  | .field field =>
    let context :=
      match field with
      | .subject => request.subjectTree
      | .resource => request.resourceTree
    context.any fun context =>
      context.placed && belowContext target context.folderId context.folderPath strict
  | .id id => belowContext target (some id) "" strict
  | .path path =>
    let isFolder := target.kind == "folder" && target.path == path
    (target.ancestorPaths.contains path || isFolder) &&
      (!strict || (target.folderPath != path && !isFolder))

/-- A variable stands for its binding, which is no variable. -/
def folderMatches (reference : PolicyFolderRef) (rule : WorkspacePolicyRule)
    (request : PolicyRequest) (target : PolicyTreeContext) (strict : Bool) : Bool :=
  match reference with
  | .variable var =>
    (rule.bindings.get? var).any fun value => folderMatchesDirect value request target strict
  | reference => folderMatchesDirect reference request target strict

/-- One condition of `conditions_match` at a placed target. -/
def conditionMatches (rule : WorkspacePolicyRule) (request : PolicyRequest)
    (target : PolicyTreeContext) (condition : PolicyTreeCondition) : Bool :=
  match condition with
  | .sameFolder =>
    request.subjectTree.any fun subject => subject.placed && subject.folderId == target.folderId
  | .resourceBelowSubjectFolder strict =>
    request.subjectTree.any fun subject =>
      subject.placed && belowContext target subject.folderId subject.folderPath strict
  | .resourceBelowFolder folder strict => folderMatches folder rule request target strict

def conditionsMatch (rule : WorkspacePolicyRule) (request : PolicyRequest) : Bool :=
  rule.conditions.all fun condition =>
    match placedContext request.resourceTree with
    | none => false
    | some target => conditionMatches rule request target condition

end Treer.Policy
