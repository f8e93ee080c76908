import PluginDiscovery.Config.Schema
import PluginDiscovery.Decimal.Shortest

/-!
# Reading the configuration from settings

Settings become a configuration in one of two dialects. The layered dialect reads what files and the
environment give: it takes a number or a truth value for a text and many words for a truth value, and
its errors name the key and the source. The strict dialect reads plain data and takes everything as
it is written.

* `Dialect`: what the two differ in;
* `Fault`, `ReadError`: why a setting cannot be read, and where it stands;
* `Dialect.config`: the configuration that settings give. A record is read from a table by the names
  of its fields, or from a list by their order.
-/

namespace PluginDiscovery

/-! ## 1. Faults -/

/-- What was found. -/
inductive Found where
  | scalar (s : Scalar)
  | sequence
  | map
  deriving DecidableEq, Repr

/-- What was asked for. -/
inductive Wanted where
  | boolean
  | text
  | sequence
  | record (name : String)
  deriving DecidableEq, Repr

/-- Why a setting cannot be read. -/
inductive Fault where
  | wrongType (found : Found) (wanted : Wanted) (origin : Option String)
  | missing (field : String)
  | tooShort (length : Nat) (record : String) (fields : Nat)
  | tooLong (length : Nat)
  deriving DecidableEq, Repr

/-- A fault, and the steps from the whole configuration to the setting that has it. -/
structure ReadError where
  steps : List KeyStep
  fault : Fault
  deriving DecidableEq, Repr

/-- The result of a reading one step below. -/
def under {α : Type} (step : KeyStep) (r : Except ReadError α) : Except ReadError α :=
  r.mapError fun e => { e with steps := step :: e.steps }

/-- What a setting is found to be. -/
def Setting.found : Setting → Found
  | .scalar _ s => .scalar s
  | .list _ _ => .sequence
  | .table _ _ => .map

/-- A fault at the setting itself. -/
def Setting.wrong {α : Type} (s : Setting) (wanted : Wanted) (origin : Option String) :
    Except ReadError α :=
  .error ⟨[], .wrongType s.found wanted origin⟩

/-! ## 2. Dialects -/

/-- A way of reading settings: how a truth value and a text are read, and whether elements of a list
    past the fields of a record are passed over. -/
structure Dialect where
  boolean : Setting → Except ReadError Bool
  text : Setting → Except ReadError String
  spareElements : Bool

namespace Dialect

/-- A truth value of the layered dialect: a number that is not zero is true, and so are some words. A
    word that means neither is shown in lower case. -/
def layeredBoolean (s : Setting) : Except ReadError Bool :=
  match s with
  | .scalar _ (.boolean b) => .ok b
  | .scalar _ (.integer i) => .ok (i != 0)
  | .scalar _ (.float x) => .ok x.isNonzero
  | .scalar origin (.text t) =>
    let word := LowerCase.lower t
    if word = "1" ∨ word = "true" ∨ word = "on" ∨ word = "yes" then .ok true
    else if word = "0" ∨ word = "false" ∨ word = "off" ∨ word = "no" then .ok false
    else .error ⟨[], .wrongType (.scalar (.text word)) .boolean origin⟩
  | s => s.wrong .boolean s.origin

/-- A text of the layered dialect: a truth value and a number give the text they are written as. -/
def layeredText (s : Setting) : Except ReadError String :=
  match s with
  | .scalar _ (.text t) => .ok t
  | .scalar _ (.boolean b) => .ok (toString b)
  | .scalar _ (.integer i) => .ok (toString i)
  | .scalar _ (.float x) => .ok (FloatText.setting.write x)
  | s => s.wrong .text s.origin

/-- A truth value of the strict dialect. -/
def strictBoolean (s : Setting) : Except ReadError Bool :=
  match s with
  | .scalar _ (.boolean b) => .ok b
  | s => s.wrong .boolean none

/-- A text of the strict dialect. -/
def strictText (s : Setting) : Except ReadError String :=
  match s with
  | .scalar _ (.text t) => .ok t
  | s => s.wrong .text none

/-- The dialect of files and the environment. -/
def layered : Dialect := ⟨layeredBoolean, layeredText, true⟩

/-- The dialect of plain data. -/
def strict : Dialect := ⟨strictBoolean, strictText, false⟩

/-! ## 3. Parts -/

/-- A text that may be absent. -/
def text? (d : Dialect) (s : Setting) : Except ReadError (Option String) :=
  if s.isNothing then .ok none else (d.text s).map some

/-- The elements of a list from an index on, each read by `read`. -/
def elements {α : Type} (read : Setting → Except ReadError α) (index : Nat) :
    List Setting → Except ReadError (List α)
  | [] => .ok []
  | s :: rest => do
    let a ← under (.index index) (read s)
    let as ← elements read (index + 1) rest
    return a :: as

/-- A list, each element read by `read`. -/
def sequence {α : Type} (read : Setting → Except ReadError α) (s : Setting) :
    Except ReadError (List α) :=
  match s with
  | .list _ items => elements read 0 items
  | s => s.wrong .sequence none

/-- The place of a field in a setting: the step to it, and the setting if it is there. -/
structure Slot where
  step : KeyStep
  setting : Option Setting

/-- The field of a slot, or a value that stands for it. -/
def Slot.readOr {α : Type} (slot : Slot) (read : Setting → Except ReadError α) (absent : α) :
    Except ReadError α :=
  match slot.setting with
  | some s => under slot.step (read s)
  | none => .ok absent

/-- The field of a slot, if it is there. -/
def Slot.read? {α : Type} (slot : Slot) (read : Setting → Except ReadError α) :
    Except ReadError (Option α) :=
  slot.readOr (fun s => (read s).map some) none

/-- The slots of the fields of a record, by name in a table and by position in a list. -/
def slots (record : String) (fields : List String) (s : Setting) : Except ReadError (Nat → Slot) :=
  match s with
  | .table _ entries =>
    .ok fun i => let name := fields[i]?.getD ""; ⟨.key name, entries.lookup name⟩
  | .list _ items => .ok fun i => ⟨.index i, items[i]?⟩
  | s => s.wrong (.record record) none

/-- Refuses a list with more elements than a record has fields, unless they are passed over. -/
def checkLength (d : Dialect) (fields : List String) (s : Setting) : Except ReadError Unit :=
  match s with
  | .list _ items =>
    if fields.length < items.length && !d.spareElements then
      .error ⟨[], .tooLong items.length⟩
    else .ok ()
  | _ => .ok ()

/-- A field that has to be there; `length` is the number of elements if the record is a list. -/
def required {α : Type} (record : String) (fields : List String) (s : Setting) (name : String) :
    Option α → Except ReadError α
  | some a => .ok a
  | none =>
    match s with
    | .list _ items => .error ⟨[], .tooShort items.length record fields.length⟩
    | _ => .error ⟨[], .missing name⟩

/-! ## 4. Records -/

/-- The fields of a configured type. -/
def typeFields : List String := ["name", "symbol"]

/-- A configured type. -/
def typeEntry (d : Dialect) (s : Setting) : Except ReadError TypeEntry := do
  let slot ← slots "PluginTypeConfig" typeFields s
  let name ← (slot 0).read? d.text
  let symbol ← (slot 1).read? d.text
  let name ← required "PluginTypeConfig" typeFields s "name" name
  let symbol ← required "PluginTypeConfig" typeFields s "symbol" symbol
  d.checkLength typeFields s
  return ⟨name, symbol⟩

/-- The fields of the section for plugins. -/
def pluginFields : List String :=
  ["directory", "build_layout", "build_output_subdir", "version", "personal_directory", "exclude",
   "report_load_failures", "types"]

/-- The section for plugins. -/
def plugins (d : Dialect) (s : Setting) : Except ReadError PluginConfig := do
  let slot ← slots "PluginConfig" pluginFields s
  let directory ← (slot 0).readOr d.text? Default.directory
  let buildLayout ← (slot 1).readOr d.boolean Default.buildLayout
  let buildOutput ← (slot 2).readOr d.text Default.buildOutput
  let version ← (slot 3).readOr d.text? none
  let personalDirectory ← (slot 4).readOr d.text? none
  let exclude ← (slot 5).readOr (sequence d.text) []
  let reportFailures ← (slot 6).readOr d.boolean Default.reportFailures
  let types ← (slot 7).readOr (sequence d.typeEntry) Default.types
  d.checkLength pluginFields s
  return { directory, buildLayout, buildOutput, version, personalDirectory, exclude,
           reportFailures, types }

/-- The fields of the section for the log. -/
def loggingFields : List String := ["level", "format"]

/-- The section for the log. -/
def logging (d : Dialect) (s : Setting) : Except ReadError LoggingConfig := do
  let slot ← slots "LoggingConfig" loggingFields s
  let level ← (slot 0).readOr d.text Default.level
  let format ← (slot 1).readOr d.text Default.format
  d.checkLength loggingFields s
  return { level, format }

/-- The sections of the configuration. -/
def configFields : List String := ["plugins", "logging"]

/-- The configuration that settings give. -/
def config (d : Dialect) (s : Setting) : Except ReadError AppConfig := do
  let slot ← slots "AppConfig" configFields s
  let plugins ← (slot 0).readOr d.plugins .standard
  let logging ← (slot 1).readOr d.logging .standard
  d.checkLength configFields s
  return { plugins, logging }

end Dialect

/-! ## 5. Messages -/

/-- What an error says was found. The absence of a value and the form of numbers depend on where
    the setting was read from. -/
def Found.shown (nothing : String) (number : FloatText) : Found → String
  | .scalar .nothing => nothing
  | .scalar (.boolean b) => "boolean \x60" ++ toString b ++ "\x60"
  | .scalar (.integer i) => "integer \x60" ++ toString i ++ "\x60"
  | .scalar (.float x) => "floating point \x60" ++ number.write x ++ "\x60"
  | .scalar (.text s) => "string " ++ Quoted.text s
  | .sequence => "sequence"
  | .map => "map"

/-- What an error says was asked for. -/
def Wanted.shown : Wanted → String
  | .boolean => "a boolean"
  | .text => "a string"
  | .sequence => "a sequence"
  | .record name => "struct " ++ name

/-- The part of an error that names a key. -/
def forKey (steps : List KeyStep) : String :=
  if steps.isEmpty then "" else " for key \x60" ++ KeyStep.shown steps ++ "\x60"

/-- The text of an error of the layered dialect. -/
def ReadError.layered (e : ReadError) : String :=
  match e.fault with
  | .wrongType found wanted origin =>
    "invalid type: " ++ found.shown "unit value" .described ++ ", expected " ++ wanted.shown
      ++ forKey e.steps ++ (origin.map fun o => " in " ++ o).getD ""
  | .missing field =>
    "missing configuration field " ++ Quoted.text (KeyStep.shown (e.steps ++ [.key field]))
  | .tooShort length record fields =>
    "invalid length " ++ toString length ++ ", expected struct " ++ record ++ " with "
      ++ toString fields ++ " elements" ++ forKey e.steps
  | .tooLong length =>
    "invalid length " ++ toString length ++ ", expected fewer elements in array" ++ forKey e.steps

/-- The text of an error of the strict dialect. -/
def ReadError.strict (e : ReadError) : String :=
  match e.fault with
  | .wrongType found wanted _ =>
    "invalid type: " ++ found.shown "null" .document ++ ", expected " ++ wanted.shown
  | .missing field => "missing field \x60" ++ field ++ "\x60"
  | .tooShort length record fields =>
    "invalid length " ++ toString length ++ ", expected struct " ++ record ++ " with "
      ++ toString fields ++ " elements"
  | .tooLong length =>
    "invalid length " ++ toString length ++ ", expected fewer elements in array"

end PluginDiscovery
