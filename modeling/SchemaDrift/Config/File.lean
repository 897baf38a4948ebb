import SchemaDrift.Config.Basic
import SchemaDrift.Document.Toml.Basic
import SchemaDrift.Document.Yaml.Basic

/-!
# Configuration files

A configuration is read from a section of a TOML or YAML document. The section has to be there;
what is in it decides the rest.
-/

namespace SchemaDrift.Config

open Document (Value)

/-- The formats of configuration files. -/
inductive Format where
  | toml
  | yaml
  deriving Repr, DecidableEq

def defaultSection : Value := "compiler"

/-- A section among entries, whose name has to be something that can be a key. -/
def sectionAmong (entries : Document.Entries) (name : Value) (missing : Fault) :
    Except Fault Value :=
  if name.isKey then
    match entries.find? (·.1.agrees name) with
    | some e => .ok e.2
    | none => .error missing
  else .error .wrongShape

def tomlSection (name : Value) (table : Document.Toml.Table) : Except Fault Value :=
  sectionAmong table name (.missingTomlSection name)

/--
A section of a YAML document. Texts and lists have no sections, though they may contain the name
of one, and an item of a list may be named by its position; other values cannot even be asked.
-/
def yamlSection (name : Value) : Value → Except Fault Value
  | .map entries => sectionAmong entries name (.missingYamlSection name)
  | .text s =>
    match name with
    | .text part =>
      if (Text.cutAt part.toList s.toList).isSome then .error .wrongShape
      else .error (.missingYamlSection name)
    | _ => .error .wrongShape
  | .list items =>
    if items.any (·.agrees name) then
      match name.asInt? with
      | some position => Document.itemAt items position
      | none => .error .wrongShape
    else .error (.missingYamlSection name)
  | _ => .error .wrongShape

/-- A section of a document in one of the formats. An empty YAML document is none at all. -/
def sectionOf (format : Format) (path : String) (name : Value) (text : String) :
    Except Fault Value :=
  match format with
  | .toml => do tomlSection name (← Document.Toml.read text)
  | .yaml => do
    match ← Document.Yaml.read text with
    | none | some .null => .error (.emptyYaml path)
    | some v => yamlSection name v

/-- Reads a configuration from a section of a file of known content, if the file exists. -/
def ofFile (format : Format) (path : String) (name : Value) (content : Option String) :
    Except Fault Config :=
  match content with
  | none => .error (.missingFile path)
  | some text => do ofDocument (← sectionOf format path name text)

end SchemaDrift.Config
