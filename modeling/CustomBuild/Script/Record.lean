import CustomBuild.Command.Record
import CustomBuild.Registry.Record
import CustomBuild.Script.Basic

/-!
# Scripts of records

A command that is written down as a record has the script of the command that the record means,
unless the banner or the wrapper cannot be written.  The functions are shown by the names by which
they are asked for.
-/

namespace CustomBuild

/-- An omission whose names are replaced by others. -/
def Omission.renamed (rename : String → String) (o : Omission) : Omission where
  root := rename o.root
  dependents := o.dependents.map rename

/-- An emitted entry with another name and other aliases. -/
def Emitted.renamed (rename : String → String) (emitted : Emitted) : Emitted :=
  let e := emitted.entry
  { emitted with entry := { e with name := rename e.name, aliases := e.aliases.map rename } }

/-- A plan whose functions and omissions have other names. -/
def Plan.renamed (rename : String → String) (p : Plan) : Plan :=
  { p with
    functions := p.functions.map (Emitted.renamed rename),
    omissions := p.omissions.map (Omission.renamed rename) }

/-- How a name is shown that is spelled as it is among values. -/
def RegistryRecord.shown (r : RegistryRecord) (values : List Json) (name : String) : String :=
  ((r.spelled values [name]).map Json.display).headD name

namespace CommandRecord

/-- The script of a plan, unless the record has no script. -/
def scriptOfPlan (record : CommandRecord) (header : RegistryHeader) (p : Plan) :
    Script.Generated :=
  let generated := Script.ofPlan header record.command p
  match generated.outcome, record.scriptMisuse? with
  | .ok _, some misuse => { generated with outcome := .error (.misuse misuse) }
  | _, _ => generated

/-- **Generating the script** of a record, for the names of the functions to emit. -/
def generate (record : CommandRecord) (r : RegistryRecord) (names : List Json) :
    Script.Generated :=
  if names.isEmpty then { faults := [], outcome := .ok "" }
  else match Script.planFor r.registry record.command.modes (r.keys names) with
    | .error error => { faults := [], outcome := .error error }
    | .ok p => record.scriptOfPlan r.registry.header (p.renamed (r.shown names))

end CommandRecord

end CustomBuild
