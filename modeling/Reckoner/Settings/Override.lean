import Reckoner.Settings.Basic

/-!
# Overrides

Named values give settings: `Settings.ofFields` reads every field that is named, takes the
default of the others, and answers the settings or all issues, in the order of the fields.
Names of no field are ignored. A name with an underscore in front is meant for the reading
itself, which may take it for an option such as the file of the environment
(`_env_file`); such options are no overrides and are left out here.

Settings that are in use are overridden in place. What they are is written as named
values, the overrides are put behind these, and the whole is read again; only what was
read is then assigned, field by field.
-/

namespace Reckoner.Settings

/-- A field of some named values: what is bound to its name, or else its default. -/
def field (fields : Fields) (f : Field) : Checked f.Value :=
  match fields.find? f.name with
  | some d => (f.read d).within f.name
  | none => .ok (f.value default)

/-- The settings that some named values give, or all issues. -/
def ofFields (fields : Fields) : Checked Settings :=
  let read : Checked _ := .ok Settings.mk
  let read := Checked.ap read (field fields .appName)
  let read := Checked.ap read (field fields .debug)
  let read := Checked.ap read (field fields .logLevel)
  let read := Checked.ap read (field fields .logJson)
  let read := Checked.ap read (field fields .resultPrecision)
  let read := Checked.ap read (field fields .previewPlaceholder)
  let read := Checked.ap read (field fields .errorPlaceholder)
  let read := Checked.ap read (field fields .host)
  let read := Checked.ap read (field fields .port)
  Checked.ap read (field fields .corsOrigins)

/-- The settings as named values, in the order of the fields. -/
def toFields (s : Settings) : Fields := Field.all.map fun f => (f.name, f.write (f.value s))

/-- Override the settings in use, and answer them. -/
def override (overrides : Fields) : ExceptT (List Issue) (StateM Settings) Settings := do
  let present ← get
  let merged ← ExceptT.mk (pure (ofFields (present.toFields ++ overrides)))
  Field.all.forM fun f => modify fun s => f.assign s (f.value merged)
  get

/-- What overriding some settings answers. -/
def apply (s : Settings) (overrides : Fields) : Checked Settings :=
  ((override overrides).run.run s).1

/-- The settings in use after overriding them. -/
def applyOrKeep (s : Settings) (overrides : Fields) : Settings := ((override overrides).run.run s).2

theorem field_of_find?_eq_none {fields : Fields} {f : Field} (h : fields.find? f.name = none) :
    field fields f = .ok (f.value default) := by
  simp [field, h]

theorem field_of_find?_eq_some {fields : Fields} {f : Field} {d : Datum}
    (h : fields.find? f.name = some d) : field fields f = (f.read d).within f.name := by
  simp [field, h]

/-- What is read of named values does not depend on anything but the values that are bound
to the names of fields. -/
theorem ofFields_congr {fields fields' : Fields}
    (h : ∀ f : Field, fields.find? f.name = fields'.find? f.name) :
    ofFields fields = ofFields fields' := by
  have hfield : field fields = field fields' := by
    funext f
    rw [field, field, h]
  rw [ofFields, ofFields, hfield]

end Reckoner.Settings
