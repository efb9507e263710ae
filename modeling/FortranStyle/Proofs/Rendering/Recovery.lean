import FortranStyle.Proofs.Rendering.Forest
import FortranStyle.Proofs.Nesting.OpenBlock

/-!
# What a scan has recovered

The shape of a source shows in a state: an open scope has its kind, its name, its
first line and the shapes that it holds so far, and an open construct has its
kind.  Recording a statement leaves all of this as it is, and closing a scope
attaches its shape to the scope around it.
-/

namespace FortranStyle

namespace Rendering

/-- An open block, as far as shapes go. -/
inductive Layer
  | scope (kind : BlockKind) (name : String) (startLine : Nat) (inner nested : List Shape)
  | construct (kind : ConstructKind)
  | other

/-- What a scan has recovered: the open blocks, the program units and procedures
that stand in no other, the errors, and the depths of lines, the latest first. -/
structure Recovered where
  layers : List Layer
  units : List Shape
  external : List Shape
  topLevel : List (BlockKind × String)
  errors : List StructuralError
  depths : List (Nat × Nat)

namespace Recovered

/-- The number of open blocks. -/
def depth (recovered : Recovered) : Nat :=
  recovered.layers.length

/-- Whether the innermost block is a scope, or a construct of the given kind. -/
def StandsIn (recovered : Recovered) : Option ConstructKind → Prop
  | none => ∃ kind name startLine inner nested rest,
      recovered.layers = .scope kind name startLine inner nested :: rest
  | some kind => ∃ rest, recovered.layers = .construct kind :: rest

/-- Whether a procedure may start: inside a scope, or in no other block. -/
def TakesProcedures (recovered : Recovered) : Prop :=
  recovered.layers = [] ∨ recovered.StandsIn none

/-- Add the depth of a line. -/
def note (recovered : Recovered) (line depth : Nat) : Recovered :=
  { recovered with depths := (line, depth) :: recovered.depths }

/-- Open a block. -/
def push (recovered : Recovered) (layer : Layer) : Recovered :=
  { recovered with layers := layer :: recovered.layers }

/-- Add what stands in no other block to the headings. -/
def announce (recovered : Recovered) (headings : List (BlockKind × String)) : Recovered :=
  match recovered.layers with
  | [] => { recovered with topLevel := recovered.topLevel ++ headings }
  | _ :: _ => recovered

/-- Add shapes to the innermost scope, or to those that stand in no other. -/
def attach (recovered : Recovered) (shapes : List Shape) : Recovered :=
  match recovered.layers with
  | [] =>
      { recovered with
        units := recovered.units ++ shapes.filter Shape.isUnit
        external := recovered.external ++ shapes.filter (!·.isUnit) }
  | .scope kind name startLine inner nested :: rest =>
      { recovered with
        layers := .scope kind name startLine (inner ++ shapes) nested :: rest }
  | _ => recovered

/-- Note the depth of a line and open a scope there. -/
def enter (recovered : Recovered) (line : Nat) (kind : BlockKind) (name : String) : Recovered :=
  ((recovered.note line recovered.depth).announce [(kind, name)]).push
    (.scope kind name line [] [])

/-- Attach the innermost scope, which ends on a line, to the blocks below it, and
note its depth. -/
def leave (recovered : Recovered) (line : Nat) (shape : Shape) (layers : List Layer) :
    Recovered :=
  (({ recovered with layers } : Recovered).attach [shape]).note line layers.length

@[simp]
theorem depth_attach (recovered : Recovered) (shapes : List Shape) :
    (recovered.attach shapes).depth = recovered.depth := by
  obtain ⟨layers, units, external, topLevel, errors, depths⟩ := recovered
  rcases layers with _ | ⟨layer, rest⟩
  · rfl
  · cases layer <;> rfl

end Recovered

end Rendering

open Rendering

/-! ## The layers of a state -/

namespace ScopeNode

/-- The first line. -/
def startLine : ScopeNode → Nat
  | programUnit node => node.startLine
  | procedure node => node.startLine

/-- The procedures inside. -/
def inner : ScopeNode → List Procedure
  | programUnit node => node.procedures
  | procedure node => node.children

end ScopeNode

/-- A frame as far as shapes go.  No statement of a body stands directly in an
enumeration. -/
def Frame.layer : Frame → Layer
  | scope ⟨_, node, _, nested⟩ =>
      .scope node.kind node.name node.startLine (Procedure.shapes node.inner)
        (nested.map ProgramUnit.shape)
  | construct _ kind => if kind = .enumeration then .other else .construct kind
  | _ => .other

theorem Frame.exists_construct {frame : Frame} {kind : ConstructKind}
    (layer_eq : frame.layer = .construct kind) : ∃ opener, frame = .construct opener kind := by
  cases frame with
  | construct opener other =>
    rw [layer] at layer_eq
    split at layer_eq
    · contradiction
    · obtain rfl := Layer.construct.inj layer_eq
      exact ⟨opener, rfl⟩
  | _ => contradiction

theorem Frame.exists_scope {frame : Frame} {kind : BlockKind} {name : String} {startLine : Nat}
    {inner nested : List Shape}
    (layer_eq : frame.layer = .scope kind name startLine inner nested) :
    ∃ scope, frame = .scope scope := by
  cases frame with
  | scope scope => exact ⟨scope, rfl⟩
  | construct opener other =>
    rw [layer] at layer_eq
    split at layer_eq <;> contradiction
  | _ => contradiction

/-- The visibility of its procedures does not show in the shape of a unit. -/
theorem ProgramUnit.shape_finish (programUnit : ProgramUnit) (endLine : Nat) :
    (programUnit.finish endLine).shape = { programUnit.shape with endLine } := by
  have same : Procedure.shapes (programUnit.finish endLine).procedures =
      Procedure.shapes programUnit.procedures := by
    rw [Procedure.shapes_eq_map, Procedure.shapes_eq_map, finish, List.map_map]
    apply List.map_congr_left
    intro procedure _
    rw [Function.comp_apply, Procedure.shape_eq, Procedure.shape_eq]
    rfl
  rw [shape, same]
  rfl

namespace ScanState

/-- What a state has recovered. -/
def recovered (state : ScanState) : Recovered where
  layers := state.frames.map Frame.layer
  units := state.units.map ProgramUnit.shape
  external := Procedure.shapes state.external
  topLevel := state.topLevel.map fun heading => (heading.kind, heading.token.text)
  errors := state.errors
  depths := state.depths

theorem depth_recovered (state : ScanState) : state.recovered.depth = state.depth :=
  List.length_map Frame.layer

/-! ## Recording -/

section Recording

variable (state : ScanState) (tokens : List Token)

theorem recovered_recordDepth (token : Token) (depth : Nat) :
    (state.recordDepth token depth).recovered = state.recovered.note token.line depth :=
  rfl

theorem recovered_push (frame : Frame) :
    (state.push frame).recovered = state.recovered.push frame.layer :=
  rfl

variable {state} in
theorem recovered_mapScope {f : Scope → Scope}
    (same : ∀ scope, (Frame.scope (f scope)).layer = (Frame.scope scope).layer) :
    (state.mapFrames (Frames.mapScope f)).recovered = state.recovered := by
  have layers_eq := Frames.map_mapScope same state.frames
  simp [recovered, mapFrames, layers_eq]

theorem recovered_mapSpecification (f : Specification → Specification) :
    (state.mapNode (·.mapSpecification f)).recovered = state.recovered := by
  apply recovered_mapScope
  rintro ⟨opener, node, inSpecification, nested⟩
  cases node <;> rfl

theorem recovered_recordExecutable :
    (state.recordExecutable tokens).recovered = state.recovered := by
  have ended : (state.mapFrames (Frames.mapScope fun scope =>
      { scope with inSpecification := false })).recovered = state.recovered := by
    apply recovered_mapScope
    exact fun _ => rfl
  unfold recordExecutable
  cases Statement.action? tokens with
  | none => exact ended
  | some action =>
    refine Eq.trans ?_ ended
    apply recovered_mapScope
    rintro ⟨opener, node, inSpecification, nested⟩
    cases node <;> rfl

theorem recovered_recordImplicit :
    (state.recordImplicit tokens).recovered = state.recovered := by
  unfold recordImplicit
  split
  · exact recovered_mapSpecification state _
  · rfl

theorem recovered_recordContains (token : Token) :
    (state.recordContains token).recovered = state.recovered := by
  unfold recordContains
  split
  · rename_i scope rest frames_eq
    obtain ⟨opener, node, inSpecification, nested⟩ := scope
    have layer_eq : ∀ flag, (Frame.scope ⟨opener, node.mapUnit fun node =>
        { node with containsLine := some token.line }, flag, nested⟩).layer =
          (Frame.scope ⟨opener, node, inSpecification, nested⟩).layer := by
      intro flag
      cases node <;> rfl
    simp [recovered, frames_eq, layer_eq]
  · rfl

end Recording

/-! ## Closing -/

section Closing

variable {state : ScanState} {layers : List Layer}

theorem exists_frame {layer : Layer} (layers_eq : state.recovered.layers = layer :: layers) :
    ∃ frame frames, state.frames = frame :: frames ∧ frame.layer = layer ∧
      frames.map Frame.layer = layers :=
  List.map_eq_cons_iff.mp layers_eq

/-- A construct leaves nothing behind. -/
theorem recovered_closeTop_construct {kind : ConstructKind}
    (layers_eq : state.recovered.layers = .construct kind :: layers) (endLine : Nat) :
    (state.closeTop endLine).recovered = { state.recovered with layers } := by
  obtain ⟨frame, frames, frames_eq, layer_eq, rfl⟩ := exists_frame layers_eq
  obtain ⟨opener, rfl⟩ := Frame.exists_construct layer_eq
  simp [closeTop, frames_eq, recovered]

theorem recovered_addUnits_nil : (state.addUnits []).recovered = state.recovered := by
  unfold addUnits
  split
  · apply recovered_mapScope
    rintro ⟨opener, node, inSpecification, nested⟩
    simp [Frame.layer]
  · simp [recovered]

theorem recovered_addProcedure (outer : state.recovered.TakesProcedures) (procedure : Procedure) :
    (state.addProcedure procedure).recovered = state.recovered.attach [procedure.shape] := by
  have isProcedure : procedure.shape.isUnit = false := by
    rw [Procedure.shape_eq]
    rfl
  rcases outer with none | ⟨kind, name, startLine, inner, nested, rest, layers_eq⟩
  · have noFrames : state.frames = [] := List.map_eq_nil_iff.mp none
    simp [addProcedure, Frames.attach?, noFrames, recovered, Recovered.attach, isProcedure,
      Procedure.shapes_eq_map]
  · obtain ⟨frame, frames, frames_eq, layer_eq, rfl⟩ := exists_frame layers_eq
    obtain ⟨scope, rfl⟩ := Frame.exists_scope layer_eq
    obtain ⟨opener, node, inSpecification, units⟩ := scope
    cases node <;>
    simp [addProcedure, Frames.attach?, frames_eq, recovered, Recovered.attach, Frame.layer,
      ScopeNode.addProcedure, ScopeNode.kind, ScopeNode.name, ScopeNode.startLine,
      ScopeNode.inner, Procedure.shapes_eq_map, Procedure.name, ProgramUnit.name]

/-- A procedure that ends is attached. -/
theorem recovered_closeTop_procedure {kind : ProcedureKind} {name : String} {startLine : Nat}
    {inner : List Shape}
    (layers_eq : state.recovered.layers =
      .scope (.procedure kind) name startLine inner [] :: layers)
    (outer : ({ state.recovered with layers } : Recovered).TakesProcedures) (endLine : Nat) :
    (state.closeTop endLine).recovered =
      ({ state.recovered with layers } : Recovered).attach
        [⟨.procedure kind, name, startLine, endLine, inner⟩] := by
  obtain ⟨frame, frames, frames_eq, layer_eq, rfl⟩ := exists_frame layers_eq
  obtain ⟨⟨opener, node, inSpecification, nested⟩, rfl⟩ := Frame.exists_scope layer_eq
  cases node with
  | programUnit node =>
    obtain ⟨kind_eq, -⟩ := Layer.scope.inj layer_eq
    contradiction
  | procedure node =>
    obtain ⟨kind_eq, rfl, rfl, rfl, nested_eq⟩ := Layer.scope.inj layer_eq
    obtain rfl := List.map_eq_nil_iff.mp nested_eq
    obtain rfl := BlockKind.procedure.inj kind_eq
    have below : ({ state with frames } : ScanState).recovered.TakesProcedures := outer
    simp only [closeTop, frames_eq]
    rw [recovered_addUnits_nil, recovered_addProcedure below, Procedure.shape_eq]
    rfl

/-- A program unit that stands in no other block is attached when it ends. -/
theorem recovered_closeTop_unit {kind : UnitKind} {name : String} {startLine : Nat}
    {inner : List Shape}
    (layers_eq : state.recovered.layers = [.scope (.unit kind) name startLine inner []])
    (endLine : Nat) :
    (state.closeTop endLine).recovered =
      ({ state.recovered with layers := [] } : Recovered).attach
        [⟨.unit kind, name, startLine, endLine, inner⟩] := by
  obtain ⟨frame, frames, frames_eq, layer_eq, none_eq⟩ := exists_frame layers_eq
  obtain ⟨⟨opener, node, inSpecification, nested⟩, rfl⟩ := Frame.exists_scope layer_eq
  obtain rfl := List.map_eq_nil_iff.mp none_eq
  cases node with
  | programUnit node =>
    obtain ⟨kind_eq, rfl, rfl, rfl, nested_eq⟩ := Layer.scope.inj layer_eq
    obtain rfl := List.map_eq_nil_iff.mp nested_eq
    obtain rfl := BlockKind.unit.inj kind_eq
    have shape_eq := node.shape_finish endLine
    simp only [closeTop, frames_eq]
    simp [addUnits, Frames.scope?, recovered, Recovered.attach, shape_eq, Shape.isUnit]
    rfl
  | procedure node =>
    obtain ⟨kind_eq, -⟩ := Layer.scope.inj layer_eq
    contradiction

end Closing

end ScanState

end FortranStyle
