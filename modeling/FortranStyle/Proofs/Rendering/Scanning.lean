import FortranStyle.Proofs.Rendering.Steps

/-!
# Scanning undoes rendering

What one statement changes is put together along the tree: a body only notes the
depths of its lines, successive procedures are attached to the scope around them,
and a forest is recovered whole.
-/

namespace FortranStyle

namespace Rendering

namespace Recovered

/-! ## Many lines -/

variable (recovered : Recovered) (line : Nat)

/-- Lines with the depths of their statements. -/
def noted (line : Nat) : List Row → List (Nat × Nat)
  | [] => []
  | row :: rows => (line, row.depth) :: noted (line + 1) rows

/-- Add the depths of successive lines. -/
def noteRows (rows : List Row) : Recovered :=
  { recovered with depths := (noted line rows).reverse ++ recovered.depths }

theorem noteRows_cons (row : Row) (rows : List Row) :
    recovered.noteRows line (row :: rows) =
      (recovered.note line row.depth).noteRows (line + 1) rows := by
  simp [noteRows, noted, note]

theorem noteRows_append (first second : List Row) :
    recovered.noteRows line (first ++ second) =
      (recovered.noteRows line first).noteRows (line + first.length) second := by
  induction first generalizing recovered line with
  | nil => rfl
  | cons row rows ih =>
    rw [List.cons_append, noteRows_cons, noteRows_cons, ih, List.length_cons,
      Nat.add_comm rows.length, Nat.add_assoc]

/-- Take up scopes that have ended. -/
def take (shapes : List Shape) : Recovered :=
  (recovered.announce (shapes.map Shape.heading)).attach shapes

theorem take_nil : recovered.take [] = recovered := by
  obtain ⟨layers, units, external, topLevel, errors, depths⟩ := recovered
  rcases layers with _ | ⟨layer, rest⟩
  · simp [take, announce, attach]
  · cases layer <;> simp [take, announce, attach]

theorem take_append (first second : List Shape) :
    recovered.take (first ++ second) = (recovered.take first).take second := by
  obtain ⟨layers, units, external, topLevel, errors, depths⟩ := recovered
  rcases layers with _ | ⟨layer, rest⟩
  · simp [take, announce, attach]
  · cases layer <;> simp [take, announce, attach]

theorem take_noteRows (shapes : List Shape) (rows : List Row) :
    (recovered.noteRows line rows).take shapes = (recovered.take shapes).noteRows line rows := by
  obtain ⟨layers, units, external, topLevel, errors, depths⟩ := recovered
  rcases layers with _ | ⟨layer, rest⟩
  · rfl
  · cases layer <;> rfl

theorem depth_take (shapes : List Shape) : (recovered.take shapes).depth = recovered.depth := by
  obtain ⟨layers, units, external, topLevel, errors, depths⟩ := recovered
  rcases layers with _ | ⟨layer, rest⟩
  · rfl
  · cases layer <;> rfl

variable {recovered} in
theorem TakesProcedures.take (takes : recovered.TakesProcedures) (shapes : List Shape) :
    (recovered.take shapes).TakesProcedures := by
  obtain ⟨layers, units, external, topLevel, errors, depths⟩ := recovered
  rcases takes with rfl | ⟨kind, name, startLine, inner, nested, rest, rfl⟩
  · exact .inl rfl
  · exact .inr ⟨kind, name, startLine, inner ++ shapes, nested, rest, rfl⟩

theorem standsIn_enter (kind : BlockKind) (name : String) :
    (recovered.enter line kind name).StandsIn none :=
  ⟨kind, name, line, [], [], _, rfl⟩

theorem depth_enter (kind : BlockKind) (name : String) :
    (recovered.enter line kind name).depth = recovered.depth + 1 := by
  obtain ⟨layers, units, external, topLevel, errors, depths⟩ := recovered
  cases layers <;> rfl

/-- The blocks around a scope are as before when the scope has taken up others. -/
theorem layers_enter_take (kind : BlockKind) (name : String) (shapes : List Shape) :
    ((recovered.enter line kind name).take shapes).layers =
      .scope kind name line shapes [] :: recovered.layers := by
  obtain ⟨layers, units, external, topLevel, errors, depths⟩ := recovered
  cases layers <;> rfl

/-- Entering and leaving a scope takes it up. -/
theorem leave_enter (head last : Clause) (rows : List Row) (shapes : List Shape) (shape : Shape) :
    (((recovered.enter line shape.kind shape.name).take shapes).noteRows (line + 1) rows).leave
        (line + 1 + rows.length) shape recovered.layers =
      (recovered.take [shape]).noteRows line
        (⟨recovered.depth, head⟩ :: rows ++ [⟨recovered.depth, last⟩]) := by
  rw [List.cons_append, noteRows_cons, noteRows_append]
  obtain ⟨layers, units, external, topLevel, errors, depths⟩ := recovered
  rcases layers with _ | ⟨layer, rest⟩
  · rfl
  · cases layer <;> rfl

end Recovered

/-- Reading lines from a line on leads from what has been recovered to what will
have been, whatever the rest of the state. -/
def Scans (line : Nat) (rows : List Row) (before after : Recovered) : Prop :=
  ∀ (state : ScanState) (statements : List (List Token)), state.recovered = before →
    AllWritten line rows statements → (state.run statements).recovered = after

namespace Scans

variable {line : Nat} {row : Row} {first second : List Row} {before middle after : Recovered}

theorem nil : Scans line [] before before := by
  intro state statements same written
  cases written
  exact same

theorem one (step : ∀ (state : ScanState) (statement : List Token), state.recovered = before →
    Written line row.clause statement → (state.step statement).recovered = after) :
    Scans line [row] before after := by
  intro state statements same written
  cases written with
  | cons here rest =>
    cases rest
    exact step state _ same here

theorem append (front : Scans line first before middle)
    (back : Scans (line + first.length) second middle after) :
    Scans line (first ++ second) before after := by
  intro state statements same written
  obtain ⟨earlier, later, rfl, earlierWritten, laterWritten⟩ := written.exists_append
  have reached := front state earlier same earlierWritten
  rw [ScanState.run, List.foldl_append]
  exact back _ later reached laterWritten

theorem cons (front : Scans line [row] before middle)
    (back : Scans (line + 1) second middle after) : Scans line (row :: second) before after :=
  front.append back

end Scans

open Recovered

/-- Reading lines notes their depths and takes up the given scopes. -/
def Recovers (line : Nat) (rows : List Row) (before : Recovered) (shapes : List Shape) : Prop :=
  Scans line rows before ((before.take shapes).noteRows line rows)

/-- Lines that only note their depths take up no scope. -/
theorem Scans.recovers_append {line : Nat} {first second : List Row} {before : Recovered}
    {shapes : List Shape} (front : Scans line first before (before.noteRows line first))
    (back : Recovers (line + first.length) second (before.noteRows line first) shapes) :
    Recovers line (first ++ second) before shapes := by
  rw [Recovers, noteRows_append, ← take_noteRows]
  exact front.append back

theorem Recovers.append {line : Nat} {first second : List Row} {before : Recovered}
    {shapes more : List Shape} (front : Recovers line first before shapes)
    (back : Recovers (line + first.length) second
      ((before.take shapes).noteRows line first) more) :
    Recovers line (first ++ second) before (shapes ++ more) := by
  rw [Recovers, take_append, noteRows_append, ← take_noteRows]
  exact Scans.append front back

/-! ## Bodies -/

/-- A body notes the depths of its lines. -/
theorem scans_body {within : Option ConstructKind} (body : Body within) (line : Nat)
    {recovered : Recovered} (stands : recovered.StandsIn within) :
    Scans line (body.rows recovered.depth) recovered
      (recovered.noteRows line (body.rows recovered.depth)) := by
  induction body generalizing line recovered with
  | nil => exact .nil
  | @leaf within statement rest ih =>
    have stillStands : (recovered.note line recovered.depth).StandsIn within := stands
    have later := ih (line + 1) stillStands
    rw [Body.rows, noteRows_cons]
    refine Scans.cons (Scans.one ?_) later
    rintro state tokens rfl written
    exact ScanState.recovered_step_leaf written stands.isOrdinary
  | @divider kind statement rest ih =>
    have stillStands : (recovered.note line (recovered.depth - 1)).StandsIn (some kind) := stands
    have later := ih (line + 1) stillStands
    rw [Body.rows, noteRows_cons]
    refine Scans.cons (Scans.one ?_) later
    rintro state tokens rfl written
    exact ScanState.recovered_step_divider written stands
  | @construct within kind opener inner rest ihInner ihRest =>
    let opened := (recovered.note line recovered.depth).push (.construct kind)
    let innerRows := inner.rows (recovered.depth + 1)
    let endLine := line + 1 + innerRows.length
    have insideStands : opened.StandsIn (some kind) := ⟨_, rfl⟩
    have inside := ihInner (line + 1) insideStands
    have stillStands : (((recovered.note line recovered.depth).noteRows (line + 1) innerRows).note
        endLine recovered.depth).StandsIn within := stands
    have later := ihRest (endLine + 1) stillStands
    rw [Body.rows, List.cons_append, noteRows_cons, noteRows_append, noteRows_cons]
    refine Scans.cons (Scans.one ?_) (inside.append (Scans.cons (Scans.one ?_) later))
    · rintro state tokens rfl written
      exact ScanState.recovered_step_opener written stands.isOrdinary
    · rintro state tokens same written
      have layers_eq : state.recovered.layers = .construct kind :: recovered.layers := by
        rw [same]
        rfl
      rw [ScanState.recovered_step_endConstruct written layers_eq, same]
      rfl

/-! ## The number of lines -/

/-- A body has as many lines at any depth. -/
theorem Body.length_rows {within : Option ConstructKind} (body : Body within) (depth : Nat) :
    (body.rows depth).length = body.size := by
  induction body generalizing depth with
  | nil => rfl
  | leaf statement rest ih =>
    rw [size]
    simp only [rows, List.length_cons, ih]
  | divider statement rest ih =>
    rw [size]
    simp only [rows, List.length_cons, ih]
  | construct opener inner rest ihInner ihRest =>
    rw [size]
    simp only [rows, List.length_cons, List.length_append, ihInner, ihRest]

theorem length_containsRow (contains : Bool) (inner : Procedures) (depth : Nat) :
    (containsRow contains inner depth).length = (containsRow contains inner 0).length := by
  cases contains <;> cases inner <;> rfl

/-- Procedures have as many lines at any depth. -/
theorem Procedures.length_rows (procedures : Procedures) (depth : Nat) :
    (procedures.rows depth).length = procedures.size := by
  induction procedures generalizing depth with
  | nil => rfl
  | cons heading body contains inner rest ihInner ihRest =>
    have contains_eq := length_containsRow contains inner depth
    rw [size]
    simp only [rows, List.length_cons, List.length_append, ihInner, ihRest, Body.length_rows,
      contains_eq]

/-! ## Scopes -/

/-- CONTAINS notes its depth where it stands. -/
theorem scans_contains (contains : Bool) (inner : Procedures) (line : Nat)
    {recovered : Recovered} (stands : recovered.StandsIn none) :
    Scans line (containsRow contains inner (recovered.depth - 1)) recovered
      (recovered.noteRows line (containsRow contains inner (recovered.depth - 1))) := by
  have one : Scans line [⟨recovered.depth - 1, .contains⟩] recovered
      (recovered.note line (recovered.depth - 1)) := by
    apply Scans.one
    rintro state tokens rfl written
    exact ScanState.recovered_step_contains written stands
  cases contains with
  | true => exact one
  | false =>
    cases inner with
    | nil => exact .nil
    | cons _ _ _ _ _ => exact one

/-- Inside a scope, the procedures behind its body are taken up. -/
theorem recovers_inside (body : Body none) (contains : Bool) {inner : Procedures} (line : Nat)
    {recovered : Recovered} (stands : recovered.StandsIn none)
    (recoversInner : ∀ line {outer : Recovered}, outer.TakesProcedures →
      Recovers line (inner.rows outer.depth) outer (inner.shapes line)) :
    Recovers line
      (body.rows recovered.depth ++ containsRow contains inner (recovered.depth - 1) ++
        inner.rows recovered.depth)
      recovered
      (inner.shapes (line + body.size + (containsRow contains inner 0).length)) := by
  let front := body.rows recovered.depth ++ containsRow contains inner (recovered.depth - 1)
  have noted : (recovered.noteRows line (body.rows recovered.depth)).StandsIn none := stands
  have bodyScans := scans_body body line stands
  have containsScans := scans_contains contains inner (line + (body.rows recovered.depth).length)
    noted
  have frontScans : Scans line front recovered (recovered.noteRows line front) := by
    rw [noteRows_append]
    exact bodyScans.append containsScans
  have line_eq : line + front.length =
      line + body.size + (containsRow contains inner 0).length := by
    rw [List.length_append, body.length_rows, length_containsRow, ← Nat.add_assoc]
  have takes : (recovered.noteRows line front).TakesProcedures := .inr stands
  apply frontScans.recovers_append
  rw [line_eq]
  exact recoversInner _ takes

/-- END of a kind closes a scope of that kind with nothing but the given blocks
around it. -/
def Ends (kind : BlockKind) (layers : List Layer) : Prop :=
  ∀ {line startLine : Nat} {name : Name} {inner : List Shape} {state : ScanState}
    {statement : List Token}, Written line (.endBlock kind name) statement →
    state.recovered.layers = .scope kind name.text startLine inner [] :: layers →
    (state.step statement).recovered =
      state.recovered.leave line ⟨kind, name.text, startLine, line, inner⟩ layers

/-- A scope is taken up where it stands. -/
theorem recovers_scope {kind : BlockKind} {name : Name} {head : Clause} {rows : List Row}
    {line : Nat} {recovered : Recovered} {shapes : List Shape}
    (enters : Scans line [⟨recovered.depth, head⟩] recovered
      (recovered.enter line kind name.text))
    (inside : Recovers (line + 1) rows (recovered.enter line kind name.text) shapes)
    (ends : Ends kind recovered.layers) :
    Recovers line (⟨recovered.depth, head⟩ :: rows ++ [⟨recovered.depth, .endBlock kind name⟩])
      recovered [⟨kind, name.text, line, line + 1 + rows.length, shapes⟩] := by
  rw [Recovers, ← leave_enter]
  refine (Scans.cons enters inside).append (Scans.one ?_)
  intro state statement same written
  rw [List.length_cons, Nat.add_comm rows.length, ← Nat.add_assoc] at written
  have layers_eq : state.recovered.layers =
      .scope kind name.text line shapes [] :: recovered.layers := by
    rw [same]
    exact layers_enter_take recovered line kind name.text shapes
  rw [ends written layers_eq, same]

/-- Successive procedures are taken up where they stand. -/
theorem recovers_procedures (procedures : Procedures) (line : Nat) {recovered : Recovered}
    (takes : recovered.TakesProcedures) :
    Recovers line (procedures.rows recovered.depth) recovered (procedures.shapes line) := by
  induction procedures generalizing line recovered with
  | nil =>
    rw [Recovers, Procedures.shapes, take_nil]
    exact .nil
  | cons heading body contains inner rest ihInner ihRest =>
    let kind := BlockKind.procedure heading.kind
    let rows := body.rows (recovered.depth + 1) ++
      containsRow contains inner recovered.depth ++ inner.rows (recovered.depth + 1)
    let scopeRows : List Row := ⟨recovered.depth, .procedure heading⟩ :: rows ++
      [⟨recovered.depth, .endBlock kind heading.name⟩]
    let innerLine := innerLine line 0 body contains inner
    let shape : Shape :=
      ⟨kind, heading.name.text, line, innerLine + inner.size, inner.shapes innerLine⟩
    have end_eq : line + 1 + rows.length = innerLine + inner.size := by
      rw [List.length_append, List.length_append, body.length_rows, inner.length_rows,
        length_containsRow, ← Nat.add_assoc, ← Nat.add_assoc]
      rfl
    have enters : Scans line [⟨recovered.depth, .procedure heading⟩] recovered
        (recovered.enter line kind heading.name.text) := by
      apply Scans.one
      rintro state statement rfl written
      exact ScanState.recovered_step_procedure written takes
    have ends : Ends kind recovered.layers := by
      intro line startLine name inner state statement written layers_eq
      exact ScanState.recovered_step_endProcedure written layers_eq takes
    have inside := recovers_inside body contains (line + 1)
      (standsIn_enter recovered line kind heading.name.text) ihInner
    rw [depth_enter, Nat.add_sub_cancel] at inside
    have scope : Recovers line scopeRows recovered [shape] := by
      have scope := recovers_scope enters inside ends
      rwa [end_eq] at scope
    have stillTakes : ((recovered.take [shape]).noteRows line scopeRows).TakesProcedures :=
      takes.take [shape]
    have depth_eq : ((recovered.take [shape]).noteRows line scopeRows).depth = recovered.depth :=
      depth_take recovered [shape]
    have later := ihRest (line + scopeRows.length) stillTakes
    rw [depth_eq] at later
    have rows_eq : (Procedures.cons heading body contains inner rest).rows recovered.depth =
        scopeRows ++ rest.rows recovered.depth := by
      simp [Procedures.rows, scopeRows, rows, kind]
    have line_eq : line + scopeRows.length = innerLine + inner.size + 1 := by
      rw [← end_eq, List.length_append, List.length_cons, List.length_singleton]
      omega
    have shapes_eq : (Procedures.cons heading body contains inner rest).shapes line =
        [shape] ++ rest.shapes (innerLine + inner.size + 1) := rfl
    rw [rows_eq, shapes_eq, ← line_eq]
    exact scope.append later

/-! ## Forests -/

theorem layers_take_of_nil {recovered : Recovered} (outermost : recovered.layers = [])
    (shapes : List Shape) : (recovered.take shapes).layers = [] := by
  obtain ⟨layers, units, external, topLevel, errors, depths⟩ := recovered
  obtain rfl : layers = [] := outermost
  rfl

theorem UnitHeading.length_rows (heading : UnitHeading) (body : Body none) (contains : Bool)
    (inner : Procedures) (line : Nat) :
    line + (heading.rows body contains inner).length =
      innerLine line 1 body contains inner + inner.size + 1 := by
  simp only [rows, List.length_append, List.length_cons, List.length_nil, body.length_rows,
    inner.length_rows, innerLine]
  omega

/-- A program unit is taken up. -/
theorem recovers_programUnit (heading : UnitHeading) (body : Body none) (contains : Bool)
    (inner : Procedures) (line : Nat) {recovered : Recovered}
    (outermost : recovered.layers = []) :
    Recovers line (heading.rows body contains inner) recovered
      [⟨.unit heading.kind, heading.name.text, line,
        innerLine line 1 body contains inner + inner.size,
        inner.shapes (innerLine line 1 body contains inner)⟩] := by
  let kind := BlockKind.unit heading.kind
  let entered := recovered.enter line kind heading.name.text
  have depth_eq : recovered.depth = 0 := by
    rw [Recovered.depth, outermost, List.length_nil]
  have entered_eq : entered.depth = 1 := by
    rw [depth_enter, depth_eq]
  have enters : Scans line [⟨recovered.depth, .programUnit heading⟩] recovered entered := by
    apply Scans.one
    rintro state statement rfl written
    exact ScanState.recovered_step_programUnit written outermost
  have implicit : Scans (line + 1) [⟨1, .implicitNone⟩] entered
      (entered.noteRows (line + 1) [⟨1, .implicitNone⟩]) := by
    apply Scans.one
    intro state statement same written
    have ordinary : state.recovered.IsOrdinary := by
      rw [same]
      exact (standsIn_enter recovered line kind heading.name.text).isOrdinary
    rw [ScanState.recovered_step_implicitNone written ordinary, same, entered_eq]
    rfl
  have stands : (entered.noteRows (line + 1) [⟨1, .implicitNone⟩]).StandsIn none :=
    standsIn_enter recovered line kind heading.name.text
  have inside := recovers_inside body contains (line + 1 + 1) stands
    fun line _ takes => recovers_procedures inner line takes
  have noted_eq : (entered.noteRows (line + 1) [⟨1, .implicitNone⟩]).depth = 1 := entered_eq
  rw [noted_eq] at inside
  have ends : Ends kind recovered.layers := by
    intro line startLine name inner state statement written layers_eq
    rw [outermost] at layers_eq ⊢
    exact ScanState.recovered_step_endUnit written layers_eq
  have scope := recovers_scope enters (implicit.recovers_append inside) ends
  have end_eq :
      line + 1 + (1 + (body.rows 1 ++ containsRow contains inner 0 ++ inner.rows 1).length) =
        innerLine line 1 body contains inner + inner.size := by
    have whole := heading.length_rows body contains inner line
    rw [UnitHeading.rows, List.length_append, List.length_cons, List.length_cons,
      List.length_singleton] at whole
    omega
  rw [depth_eq, List.length_append, List.length_singleton, end_eq] at scope
  exact scope

/-- In no other block, lines are taken up one after the other. -/
theorem Recovers.append_outermost {line : Nat} {first second : List Row} {before : Recovered}
    {shapes more : List Shape} (front : Recovers line first before shapes)
    (outermost : before.layers = [])
    (back : ∀ {after : Recovered}, after.layers = [] →
      Recovers (line + first.length) second after more) :
    Recovers line (first ++ second) before (shapes ++ more) :=
  front.append (back (layers_take_of_nil outermost shapes))

/-- A forest is taken up. -/
theorem recovers_forest (forest : Forest) (line : Nat) {recovered : Recovered}
    (outermost : recovered.layers = []) :
    Recovers line forest.rows recovered (forest.shapes line) := by
  induction forest generalizing line recovered with
  | nil =>
    rw [Recovers, Forest.shapes, take_nil]
    exact .nil
  | programUnit heading body contains inner rest ih =>
    have scope := recovers_programUnit heading body contains inner line outermost
    have both := scope.append_outermost outermost (ih _)
    rw [heading.length_rows] at both
    exact both
  | external heading body contains inner rest ih =>
    let procedures := Procedures.cons heading body contains inner .nil
    have scope := recovers_procedures procedures line (.inl outermost)
    have depth_eq : recovered.depth = 0 := by
      rw [Recovered.depth, outermost, List.length_nil]
    rw [depth_eq] at scope
    have both := scope.append_outermost outermost (ih _)
    rw [procedures.length_rows] at both
    exact both

/-! ## The source -/

/-- The depth noted for a line is that of its statement. -/
theorem lookup_noted (rows : List Row) (line index : Nat) :
    (noted line rows).lookup (line + index) = rows[index]?.map Row.depth := by
  induction rows generalizing line index with
  | nil => rfl
  | cons row rows ih =>
    cases index with
    | zero => simp [noted]
    | succ index =>
      have later := ih (line + 1) index
      have line_eq : line + 1 + index = line + (index + 1) := by omega
      have other : (line + (index + 1) == line) = false := by simp
      rw [line_eq] at later
      simp [noted, List.lookup_cons, later, other]

/-- Scanning undoes rendering.  The text of a forest has no errors, every line has
the depth at which it was rendered, and the program units and external procedures
are recovered with their kinds, their names, their first and last lines and the
procedures inside them. -/
theorem scan_render (forest : Forest) :
    let source := Tokenized.ofLines forest.render
    let outline := Outline.ofTokenized source
    source.errors = [] ∧ outline.errors = [] ∧
      outline.lineDepths = forest.rows.map (some ·.depth) ∧
      outline.units.map ProgramUnit.shape = (forest.shapes 1).filter Shape.isUnit ∧
      outline.external.map Procedure.shape = (forest.shapes 1).filter (!·.isUnit) ∧
      outline.topLevel.map (fun heading => (heading.kind, heading.token.text)) =
        (forest.shapes 1).map Shape.heading := by
  intro source outline
  obtain ⟨noErrors, written, length_eq⟩ := forest.read_render
  let state := ScanState.initial.run source.statements
  have recovered_eq : state.recovered =
      (ScanState.initial.recovered.take (forest.shapes 1)).noteRows 1 forest.rows :=
    recovers_forest forest 1 rfl ScanState.initial source.statements rfl written
  have noFrames : state.frames = [] :=
    List.map_eq_nil_iff.mp (congrArg Recovered.layers recovered_eq)
  have closed : state.closeAll (max source.lines.length 1) state.depth = state := by
    rw [ScanState.depth, noFrames]
    rfl
  have outline_eq : outline = ⟨state.units, state.external, state.topLevel,
      state.lineDepths source.lines.length, state.errors, state.misplacedUses⟩ := by
    simp only [outline, Outline.ofTokenized, Outline.ofStatements]
    rw [closed]
  have depths_eq : state.depths.reverse = noted 1 forest.rows := by
    have depths := congrArg Recovered.depths recovered_eq
    have state_eq : state.depths = (noted 1 forest.rows).reverse := by
      simpa [ScanState.recovered, ScanState.initial, Recovered.take, Recovered.announce,
        Recovered.attach, Recovered.noteRows] using depths
    rw [state_eq, List.reverse_reverse]
  have lineDepths_eq : state.lineDepths source.lines.length =
      forest.rows.map (some ·.depth) := by
    rw [ScanState.lineDepths, depths_eq, length_eq]
    apply List.ext_getElem
    · simp
    · intro index _ inside
      rw [List.length_map] at inside
      simp [Nat.add_comm index 1, lookup_noted, inside]
  have units_eq := congrArg Recovered.units recovered_eq
  have external_eq := congrArg Recovered.external recovered_eq
  have topLevel_eq := congrArg Recovered.topLevel recovered_eq
  have errors_eq := congrArg Recovered.errors recovered_eq
  rw [outline_eq]
  refine ⟨noErrors, errors_eq, lineDepths_eq, units_eq, ?_, topLevel_eq⟩
  rw [← Procedure.shapes_eq_map]
  exact external_eq

end Rendering

end FortranStyle
