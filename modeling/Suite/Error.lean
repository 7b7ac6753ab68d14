import Suite.Host.FileTree
import Suite.Json.Decoder

/-!
# Errors of the suite

What can go wrong in describing the suite, in launching it and in checking its files, as causes. The
wording of every cause is `Error.message`.
-/

namespace Suite

/-- Why no home of the platform was found. -/
inductive PlatformProblem
  | unset
  | notDirectory (home : Path)
  deriving DecidableEq, Repr

/-- The variables that may hold the home of the platform, the first that is filled wins. -/
def platformVariables : List String := ["BF_PLATFORM_HOME", "GRAALVM_HOME"]

/-- The wording of a missing platform. -/
def PlatformProblem.message : PlatformProblem → String
  | .unset => "none of " ++ ", ".intercalate platformVariables ++ " is set"
  | .notDirectory home => home.text ++ " is not a directory"

/-- Why there is no toolchain. -/
inductive ToolchainProblem
  | unset
  | notDirectory (home : Path)
  /-- A launch needs one and was given none. -/
  | needed
  deriving DecidableEq, Repr

/-- The variable that holds the home of the toolchain. -/
def toolchainVariable : String := "JAVA_HOME"

/-- The wording of a missing toolchain. -/
def ToolchainProblem.message : ToolchainProblem → String
  | .unset => toolchainVariable ++ " is not set"
  | .notDirectory home => home.text ++ " is not a directory"
  | .needed => "standalone launch needs a JDK"

/-- What is wrong with a configuration. -/
inductive ConfigProblem
  | undeclaredDependency (distribution dependency : String)
  | undeclaredJar (jar : String)
  | emptyCommand
  deriving DecidableEq, Repr

/-- The wording of what is wrong with a configuration. -/
def ConfigProblem.message : ConfigProblem → String
  | .undeclaredDependency distribution dependency =>
    "distribution " ++ distribution ++ " depends on undeclared distribution " ++ dependency
  | .undeclaredJar jar => "launcher references undeclared distribution " ++ jar
  | .emptyCommand => "gate task with empty command"

/-- What can go wrong. -/
inductive Error
  | duplicateProfile (name : String)
  | unknownProfile (name : String)
  | unknownComponent (id : String)
  | platformNotFound (why : PlatformProblem)
  | unresolvedDistribution (id : String)
  | emptyClasspath (ids : List String)
  | toolchainNotFound (why : ToolchainProblem)
  | ciMismatch (own shared : Path) (ownDigest sharedDigest : String)
  | config (why : ConfigProblem)
  | io (why : Host.IoError)
  | json (why : Json.Error)
  deriving DecidableEq, Repr

/-- The wording of a place where a text is not JSON. -/
def Json.Fault.message : Json.Fault → String
  | .truncated => "EOF while parsing a value"
  | .malformed => "expected value"

/-- The wording of a text that could not be decoded. -/
def Json.Error.message : Json.Error → String
  | .fault f => f.message
  | .mismatch m => m.message

namespace Error

/-- The wording of an error. -/
def message : Error → String
  | .duplicateProfile name => "VM profile already registered: " ++ name
  | .unknownProfile name => "unknown VM profile: " ++ name
  | .unknownComponent id => "unknown component tag: " ++ id
  | .platformNotFound why => "platform home not found: " ++ why.message
  | .unresolvedDistribution id => "unresolved distribution: " ++ id
  | .emptyClasspath ids =>
    "distributions [" ++ Text.quoteAll ids ++ "] resolve to an empty classpath"
  | .toolchainNotFound why => "java toolchain not found: " ++ why.message
  | .ciMismatch own shared ownDigest sharedDigest =>
    "CI config " ++ own.text ++ " differs from upstream " ++ shared.text ++ " (local " ++ ownDigest
      ++ ", upstream " ++ sharedDigest ++ ")"
  | .config why => "invalid suite config: " ++ why.message
  | .io why => "io error: " ++ why.message
  | .json why => "json error: " ++ why.message

/-- The wordings of an error and of what caused it, the outermost first. -/
def causes (e : Error) : List String :=
  match e with
  | .io why => [e.message, why.message]
  | .json why => [e.message, why.message]
  | _ => [e.message]

end Error

end Suite
