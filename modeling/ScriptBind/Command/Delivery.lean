import ScriptBind.Files.Tree
import ScriptBind.Module.Basic

/-!
# Delivering a Module

The source of a module goes to a file or is printed; its description goes to a
file if one is named. The source goes first. When it cannot be written, nothing
else is tried; when the description cannot, the source stays.

## Main definitions

* `Destination`: Where a module goes.
* `DeliveryFault`: What cannot be written.
* `Delivery`: What has become of a module.
* `Module.deliver`: Delivering a module.

## Theorems

* `deliver_printed`: A module without a file is printed whole.
-/

namespace ScriptBind

/-- Where a module goes. -/
structure Destination where
  /-- The file for the source, which is printed if there is none. -/
  output : Option String := none
  /-- The file for the description. -/
  metadata : Option String := none
  deriving DecidableEq, Repr, Inhabited

/-- What cannot be written. -/
inductive DeliveryFault where
  | output (path : String)
  | metadata (path : String)
  deriving DecidableEq, Repr, Inhabited

/-- The wording of a fault. -/
def DeliveryFault.message : DeliveryFault → String
  | .output path => s!"writing output to {path}"
  | .metadata path => s!"writing metadata to {path}"

/-- What has become of a module. -/
structure Delivery where
  /-- The files afterwards. -/
  tree : Tree
  /-- What has been printed. -/
  printed : String := ""
  /-- What could not be written. -/
  fault? : Option DeliveryFault := none
  deriving Inhabited

namespace Module

/-- Deliver the source of a module. -/
def deliverSource (module : Module) (tree : Tree) (output : Option String) : Delivery :=
  match output with
  | none => { tree, printed := module.source }
  | some path =>
    match tree.write? path module.source with
    | none => { tree, fault? := some (.output path) }
    | some tree => { tree }

/-- Deliver the description of a module after its source. -/
def deliverDescription (module : Module) (delivery : Delivery) (path : String) : Delivery :=
  match delivery.tree.write? path module.description.text with
  | none => { delivery with fault? := some (.metadata path) }
  | some tree => { delivery with tree }

/-- Deliver a module. -/
def deliver (module : Module) (tree : Tree) (destination : Destination) : Delivery :=
  let delivery := module.deliverSource tree destination.output
  match delivery.fault?, destination.metadata with
  | none, some path => module.deliverDescription delivery path
  | _, _ => delivery

/-- Delivering the description prints nothing. -/
theorem printed_deliverDescription (module : Module) (delivery : Delivery) (path : String) :
    (module.deliverDescription delivery path).printed = delivery.printed := by
  unfold deliverDescription
  generalize delivery.tree.write? path module.description.text = written
  cases written <;> rfl

/-- A source without a file is printed whole. -/
theorem deliverSource_none (module : Module) (tree : Tree) :
    module.deliverSource tree none = { tree, printed := module.source } := by
  rw [deliverSource]

/-- A module without a file is printed whole. -/
theorem deliver_printed (module : Module) (tree : Tree) (metadata : Option String) :
    (module.deliver tree { output := none, metadata }).printed = module.source := by
  unfold deliver
  simp only [deliverSource_none]
  cases metadata with
  | none => simp only
  | some path => simp only [printed_deliverDescription]

end Module

end ScriptBind
