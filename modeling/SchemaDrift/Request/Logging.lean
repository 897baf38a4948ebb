import SchemaDrift.Config.Basic
import SchemaDrift.Log.Tree
import SchemaDrift.Plan.Document
import SchemaDrift.Request.Arguments

/-!
# Requests to the log

The operations on the tree of loggers by name: asking for loggers, handing them entries, laying
out lines, and logging statements.
-/

namespace SchemaDrift.Request

open Document (Value Entries)
open Log (Tree)

def ofLogger (t : Tree) (name : String) : Value :=
  let n := t.node name
  let formatter (o : Log.Output) : String := if o.colourful then "ColoredFormatter" else "Formatter"
  let colours (o : Log.Output) : Value := if o.colourful then .bool o.colours else .null
  .record [
    ("name", n.name), ("level", .int n.level), ("handlers", .int n.output.toList.length),
    ("handler_level", .orNull (fun o => .int o.level) n.output),
    ("formatter", .orNull (fun o => .text (formatter o)) n.output),
    ("colors", .orNull colours n.output), ("propagate", .bool n.propagates)]

/-- The name of a logger; what counts as false stands for the one above all. -/
def loggerName (v : Value) : Except Fault String :=
  match v.stated? with
  | none => .ok ""
  | some (.text s) => .ok s
  | some _ => .error .wrongShape

/-- The logger that is asked for where none is named. -/
def libraryLogger : Value := Log.libraryName

/-- Asks for a logger and tells what it is like. One that cannot be set up is known all the same. -/
def ensured (t : Tree) (name : String) (level : Value) (colourful : Bool) :
    Tree × Except Fault Value :=
  match t.ensure name level colourful with
  | .ok t => (t, .ok (ofLogger t name))
  | .error f => (t.know name, .error f)

/-- The entry that arguments describe. Its level has to be something that can be a key. -/
def entryOf (args : Entries) (logger : Value) : Except Fault Log.Entry := do
  let level ← Document.heldUnder args "level"
  if !level.isKey then throw .wrongShape
  return {
    logger, level
    message := ← Document.heldUnder args "message"
    created := Form.partOr args "created" (.int 0)
    millis := Form.partOr args "msecs" (.int 0) }

/-- The layout that an argument states; what counts as false is that of a bare message. -/
def layoutOf (v : Value) : Except Fault Log.Layout :=
  match v.stated? with
  | none => .ok Log.Layout.bare
  | some (.text s) => Log.Layout.ofText s
  | some _ => .error .wrongShape

/-- An entry in a layout, in colours where the output is a terminal and takes them. -/
def laidOut (t : Tree) (args : Entries) : Except Fault String := do
  let layout ← layoutOf (Reading.part args "fmt")
  let e ← entryOf args (Form.partOr args "name" libraryLogger)
  let plain ← layout.render e
  if t.terminal && (Form.partOr args "use_colors" (.bool true)).isTruthy then
    return Log.colourLine e plain
  return plain

/-- A statement as the log shows it. One without a category is a mere text. -/
def statementLine : Value → Except Fault String
  | .list [category, written] =>
    if category.isTruthy then
      (Category.ofLabel category).map fun c => (Statement.verbatim c written.display).logLine
    else .ok (Text.stripRight written.display)
  | _ => .error .wrongShape

/-- Logs statements: how many, and the records. -/
def statementsLogged (args : Entries) : Except Fault Value := do
  let lines ← (← Document.itemsOf (← Document.heldUnder args "statements")).mapM statementLine
  let lines := if (Form.partOr args "enabled" (.bool true)).isTruthy then lines else []
  return .list [.int lines.length, .list (lines.map fun l => .texts [Log.Level.debug.label, l])]

/-- The configuration that arguments state, or the usual one. -/
def configOf (args : Entries) : Except Fault Config := do
  Config.ofDocument (.map (← Document.entriesOf (Form.partOr args "config" (.map []))))

/-- The logger of a component. One that a configuration brings along is nothing that can be told. -/
def component (t : Tree) (args : Entries) (config : Config) : Tree × Except Fault Value :=
  if config.logger.isSome then (t, .error .unsupported)
  else
    match Document.heldUnder args "component" with
    | .error f => (t, .error f)
    | .ok c => ensured t (Log.componentName c.display) config.logLevel.name true

/-- Answers a request to the log, which may bring a logger of its own. -/
def logging (t : Tree) (operation : String) (args : Entries) (isExternal : Bool) :
    Tree × Except Fault Value :=
  match operation with
  | "get_logger" =>
    if Reading.flag args "external_logger" then (t, .ok "external")
    else
      match loggerName (Form.partOr args "name" libraryLogger) with
      | .error f => (t, .error f)
      | .ok name =>
        ensured t name (Form.partOr args "level" "INFO")
          (Form.partOr args "use_colors" (.bool true)).isTruthy
  | "component" =>
    match configOf args with
    | .error f => (t, .error f)
    | .ok config => if isExternal then (t, .ok "external") else component t args config
  | "emit" =>
    match Document.heldUnder args "name" >>= loggerName with
    | .error f => (t, .error f)
    | .ok name =>
      let known := t.know name
      (known, do return .text (← known.emit name (← entryOf args name)))
  | "format" => (t, (laidOut t args).map .text)
  | "log_statements" => (t, statementsLogged args)
  | "null" => (t, .ok (.list (List.replicate 5 .null)))
  | _ => (t, .error .unsupported)

end SchemaDrift.Request
