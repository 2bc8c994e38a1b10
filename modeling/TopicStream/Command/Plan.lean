import TopicStream.Command.Flags
import TopicStream.Engine.State
import TopicStream.Http.Transport

/-!
# Plans

What the command line asks for: some commands print a text and are done, the command that listens
needs the address of a server and at least one topic.
-/

namespace TopicStream.Command

/-- A line that a command prints. -/
inductive Line where
  /-- To the standard output. -/
  | out (text : String)
  /-- To the standard error. -/
  | err (text : String)
  deriving DecidableEq, Repr

/-- Whom to listen to, and for what. -/
structure Plan where
  /-- The configuration of the client. -/
  config : Config
  /-- The credential, if any. -/
  credential : Credential.Store
  /-- The topics in order. -/
  topics : List String

/-- What is missing for a plan. -/
inductive Shortage where
  /-- The address of the server. -/
  | server
  /-- A topic. -/
  | topic
  deriving DecidableEq, Repr

/-- The wording of a shortage. -/
def Shortage.message : Shortage → String
  | server => "--url is required"
  | topic => "at least one --topic is required"

namespace Plan

/-- The plan that flags describe. Of repeated flags the first counts, except that every topic
does. -/
def ofFlags (arguments : List String) : Except Shortage Plan :=
  match Flags.value? "--url" arguments, Flags.values "--topic" arguments with
  | none, _ => .error .server
  | some _, [] => .error .topic
  | some url, topics =>
    let config := Config.forServer url
    .ok
      { config := ((Flags.value? "--lang" arguments).map config.withLang).getD config
        credential :=
          ((Flags.value? "--token" arguments).map Credential.Store.ofToken).getD .empty
        topics }

/-- The transport of a plan. -/
def transport (p : Plan) : Http.Transport := .ofConfig p.config

/-- The message that announces topics for a client id. -/
def announcementMessage (p : Plan) (now : Int) (clientId : String) (topics : List String) :
    Http.Message :=
  p.transport.requestMessage p.credential now Http.realtimePath
    (Engine.announcementRequest clientId topics)

/-- What the engine of a plan is told. -/
def settings (p : Plan) : Engine.Settings where
  url := p.transport.url Http.realtimePath
  lang := p.config.lang
  userAgent := p.config.userAgent
  connectTimeout := p.config.connectTimeoutMs
  reconnectDelay := p.config.reconnectDelayMs

end Plan

/-! ### Commands -/

/-- What a command line leads to. -/
inductive Job where
  /-- Lines are printed, and the program ends with a status. -/
  | print (lines : List Line) (status : Nat)
  /-- Events are printed until the user interrupts. -/
  | listen (plan : Plan)

/-- The name of the program and its version. -/
def version : String := "realtide 0.1.0"

/-- The help. -/
def usage : List Line :=
  [ version,
    "Subscribe to realtime topics over Server-Sent Events",
    "",
    "USAGE:",
    "    realtide <COMMAND>",
    "",
    "COMMANDS:",
    "    listen     Print events for one or more topics until Ctrl-C",
    "    version    Print version",
    "    help       Print this help",
    "",
    "LISTEN FLAGS:",
    "    --url <URL>       Server base URL  [required]",
    "    --topic <TOPIC>   Topic to subscribe to, repeatable  [required]",
    "    --token <JWT>     Auth token sent when still valid",
    "    --lang <LANG>     Accept-Language value (default en-US)" ].map .out

/-- The line that reports why the program fails. -/
def failure (reason : String) : Line := .err ("Error: " ++ reason)

/-- The status of success. -/
def succeeded : Nat := 0

/-- The status of failure. -/
def failed : Nat := 1

/-- What the arguments ask for. Without any, or with an unknown command, the help is printed and the
program fails. -/
def Job.ofArguments : List String → Job
  | [] => .print usage failed
  | command :: rest =>
    match command with
    | "listen" =>
      match Plan.ofFlags rest with
      | .ok plan => .listen plan
      | .error shortage => .print [failure shortage.message] failed
    | "version" | "--version" | "-V" => .print [.out version] succeeded
    | "help" | "--help" | "-h" => .print usage succeeded
    | _ => .print (.err ("Unknown command: " ++ command) :: usage) failed

end TopicStream.Command
