import KarelLab.Document.Recording
import KarelLab.Proofs.Recording.Trace
import KarelLab.Proofs.World.WellFormed

namespace KarelLab

namespace World

theorem dropRepeated_of_nodup {walls : List Wall} (h : walls.Nodup) : dropRepeated walls = walls := by
  rw [dropRepeated_eq_eraseDups, eraseDups_of_nodup h]

theorem mergePiles_of_nodup {ps : List Pile} (h : (ps.map Pile.position).Nodup) :
    mergePiles ps = ps := by
  induction ps using List.reverseRecOn with
  | nil => rfl
  | append_singleton ps p ih =>
    rw [List.map_append, List.map_singleton, ← List.concat_eq_append, List.nodup_concat] at h
    obtain ⟨hfresh, hps⟩ := h
    rw [mergePiles_concat, ih hps, addPile_of_notMem hfresh]

theorem WellFormed.normalize_eq {w : World} (h : w.WellFormed) : w.normalize = w := by
  unfold normalize
  rw [dropRepeated_of_nodup h.walls_nodup, mergePiles_of_nodup h.piles_nodup]

end World

namespace Document

open Checked

theorem items_map {α : Type} {check : Json → Checked α} {write : α → Json} {as : List α}
    (h : ∀ a ∈ as, check (write a) = .ok a) (n : Nat) :
    items check n (as.map write) = .ok as := by
  induction as generalizing n with
  | nil => rfl
  | cons a rest ih =>
    have ha : check (write a) = .ok a := h a List.mem_cons_self
    have hrest := ih (fun b hb => h b (List.mem_cons_of_mem a hb)) (n + 1)
    simp [items, ha, hrest, within, both, Except.map]

theorem list_array {α : Type} {check : Json → Checked α} {write : α → Json} {as : List α}
    (medium : Medium) (h : ∀ a ∈ as, check (write a) = .ok a) :
    list medium check (.array (as.map write)) = .ok as := items_map h 0

theorem field_ok {α : Type} {fs : List (String × Json)} {name : String} {check : Json → Checked α}
    {j : Json} {a : α} (hl : Json.lookup name fs = some j) (hc : check j = .ok a) :
    field fs name check = .ok a := by
  simp [field, hl, hc, within]

theorem fieldOr_ok {α : Type} {fs : List (String × Json)} {name : String} {default : α}
    {check : Json → Checked α} {j : Json} {a : α} (hl : Json.lookup name fs = some j)
    (hc : check j = .ok a) : fieldOr fs name default check = .ok a := by
  simp [fieldOr, hl, hc, within]

theorem position_ofPosition (medium : Medium) (p : Position) :
    position medium (ofPosition p) = .ok p := rfl

theorem direction_name (d : Direction) : direction (.string d.name) = .ok d := by
  cases d <;> rfl

theorem wall_ofWall (medium : Medium) (w : Wall) : wall medium (ofWall w) = .ok w := by
  obtain ⟨o, x, y⟩ := w
  cases o <;> rfl

theorem wholeFrom_of_le {low n : Int} (h : low ≤ n) : wholeFrom low (.int n) = .ok n :=
  if_neg (Int.not_lt.mpr h)

theorem wholeBetween_of_le {low high n : Int} (hl : low ≤ n) (hh : n ≤ high) :
    wholeBetween low high (.int n) = .ok n := by
  change (if high < n then _ else if n < low then _ else _) = _
  rw [if_neg (Int.not_lt.mpr hh), if_neg (Int.not_lt.mpr hl)]

theorem pile_ofPile (medium : Medium) {p : Pile} (h : 1 ≤ p.count) :
    pile medium (ofPile p) = .ok p := by
  obtain ⟨x, y, count⟩ := p
  have hc : wholeFrom 1 (.int count) = .ok (count : Int) := wholeFrom_of_le (by exact_mod_cast h)
  have hf : field [("x", .int x), ("y", .int y), ("count", .nat count)] "count" (wholeFrom 1) =
      .ok (count : Int) := field_ok rfl hc
  change (both (.ok x) (both (.ok y) (field _ "count" (wholeFrom 1)))).map _ = _
  rw [hf]
  rfl

theorem toInt_ge (b : Bag) : -1 ≤ b.toInt := by
  cases b with
  | unlimited => exact Int.le_refl _
  | holding n =>
    change -1 ≤ (n : Int)
    omega

/-- The document of an accepted world is read as that world. -/
theorem world_ofWorld (medium : Medium) {w : World} (h : w.WellFormed) :
    world medium (ofWorld w) = .ok w := by
  obtain ⟨width, height, ⟨p, d, b⟩, walls, piles⟩ := w
  have hw : wholeBetween 1 World.maxSize (.int width) = .ok (width : Int) :=
    wholeBetween_of_le (by exact_mod_cast h.width_pos) (by exact_mod_cast h.width_le)
  have hh : wholeBetween 1 World.maxSize (.int height) = .ok (height : Int) :=
    wholeBetween_of_le (by exact_mod_cast h.height_pos) (by exact_mod_cast h.height_le)
  have hdim : dimensions medium (.object [("width", .nat width), ("height", .nat height)]) =
      .ok (width, height) := by
    change (both (field _ "width" _) (field _ "height" _)).map _ = _
    rw [field_ok rfl hw, field_ok rfl hh]
    rfl
  have hbag : wholeFrom (-1) (.int b.toInt) = .ok b.toInt := wholeFrom_of_le (toInt_ge b)
  have hrobot : robot medium (.object [("position", ofPosition p), ("direction", .string d.name),
      ("beeper_bag", .int b.toInt)]) = .ok ⟨p, d, b⟩ := by
    change (both (field _ "position" _) (both (fieldOr _ "direction" _ _)
      (fieldOr _ "beeper_bag" _ _))).map _ = _
    rw [field_ok rfl (position_ofPosition medium p), fieldOr_ok rfl (direction_name d),
      fieldOr_ok rfl hbag]
    simp [both, Except.map]
  have hwalls : list medium (wall medium) (.array (walls.map ofWall)) = .ok walls :=
    list_array medium fun a _ => wall_ofWall medium a
  have hpiles : list medium (pile medium) (.array (piles.map ofPile)) = .ok piles :=
    list_array medium fun a ha => pile_ofPile medium (h.counts_pos a ha)
  -- the document as its fields, each of which is read on its own
  change (do
    let ((width, height), r, walls, piles) ← both (field _ "dimensions" _) (both (field _ "robot" _)
      (both (fieldOr _ "walls" _ _) (fieldOr _ "beeper_piles" _ _)))
    accept ⟨width, height, r, walls, piles⟩) = _
  rw [field_ok rfl hdim, field_ok rfl hrobot, fieldOr_ok rfl hwalls, fieldOr_ok rfl hpiles]
  change accept _ = _
  rw [accept, if_pos h.robot_inside, h.normalize_eq]

def Plain (r : Report) : Prop := r.hint ≠ some ""

theorem reportCode_name (c : ReportCode) :
    choice ReportCode.ofName? "the name of a kind of failure" (.string c.name) = .ok c := by
  cases c <;> rfl

theorem optional_line (n : Option Nat) : optional line (ofLine? n) = .ok n := by
  cases n with
  | none => rfl
  | some n =>
    have h : wholeFrom 0 (.int n) = .ok (n : Int) := wholeFrom_of_le (Int.natCast_nonneg n)
    change ((wholeFrom 0 (.int n)).map Int.toNat).map some = _
    rw [h]
    rfl

/-- The document of a report is read as that report, unless its hint is empty. -/
theorem report_ofReport (medium : Medium) {r : Report} (h : Plain r) :
    report medium (ofReport r) = .ok r := by
  obtain ⟨code, message, l, hint, rule⟩ := r
  have hshown : Report.shownHint ⟨code, message, l, hint, rule⟩ = hint := by
    cases hint with
    | none => rfl
    | some s =>
      have hs : s ≠ "" := fun e => h (congrArg some e)
      simp [Report.shownHint, Option.filter, hs]
  -- which fields there are depends on hint and rule, so only what is found in them is kept
  have hfs : ∃ fs, ofReport ⟨code, message, l, hint, rule⟩ = .object fs ∧
      Json.lookup "code" fs = some (.string code.name) ∧
      Json.lookup "message" fs = some (.string message) ∧
      Json.lookup "line" fs = some (ofLine? l) ∧
      Json.lookup "hint" fs = hint.map Json.string ∧
      Json.lookup "rule" fs = rule.map Json.string := by
    refine ⟨_, rfl, ?_⟩
    rw [hshown]
    cases rule <;> cases hint <;> exact ⟨rfl, rfl, rfl, rfl, rfl⟩
  obtain ⟨fs, he, hcode, hmessage, hline, hhint, hrule⟩ := hfs
  have htext (name : String) (o : Option String) (hl : Json.lookup name fs = o.map Json.string) :
      fieldOr fs name none (optional text) = .ok o := by
    cases o with
    | none => simp [fieldOr, hl, within]
    | some s => exact fieldOr_ok hl rfl
  have hm : field fs "message" text = .ok message := field_ok hmessage rfl
  rw [he]
  change (both (field fs "code" _) (both (field fs "message" text) (both (fieldOr fs "line" none _)
    (both (fieldOr fs "hint" none _) (fieldOr fs "rule" none _))))).map _ = _
  rw [field_ok hcode (reportCode_name code), hm,
    fieldOr_ok hline (optional_line l), htext "hint" hint hhint, htext "rule" rule hrule]
  rfl

theorem primitive_name (p : Primitive) :
    choice Primitive.ofName? "a command" (.string p.name) = .ok p := by
  rw [choice, p.ofName?_name]

def Readable (t : Tick) : Prop :=
  match t.outcome with
  | .acted after => after.WellFormed
  | .sensed _ => True
  | .failed r => Plain r

/-- A tick is read once each of its fields is. -/
theorem tick_object {medium : Medium} {fs : List (String × Json)} {index : Nat} {p : Primitive}
    {l : Option Nat} {w : Option World} {v : Option Bool} {r : Option Report} {o : TickOutcome}
    (hindex : field fs "index" line = .ok index)
    (hp : field fs "primitive" (choice Primitive.ofName? "a command") = .ok p)
    (hl : fieldOr fs "line" none (optional line) = .ok l)
    (hw : fieldOr fs "world" none (optional (world medium)) = .ok w)
    (hv : fieldOr fs "value" none (optional truthValue) = .ok v)
    (hr : fieldOr fs "error" none (optional (report medium)) = .ok r)
    (ho : outcome (w, v, r) = .ok o) :
    tick medium (.object fs) = .ok ⟨index, p, l, o⟩ := by
  have hfields : fields medium "Tick" (.object fs) = .ok fs := rfl
  unfold tick
  rw [hfields]
  change (both (field fs "index" line) _ >>= _) = _
  rw [hindex, hp, hl, hw, hv, hr]
  change (outcome (w, v, r)).map _ = _
  rw [ho]
  rfl

/-- The document of a tick is read as that tick. -/
theorem tick_ofTick (medium : Medium) {t : Tick} (h : Readable t) :
    tick medium (ofTick t) = .ok t := by
  obtain ⟨index, p, l, o⟩ := t
  have hindex : line (.nat index) = .ok index := by
    change (wholeFrom 0 (.int index)).map Int.toNat = _
    rw [wholeFrom_of_le (Int.natCast_nonneg index)]
    rfl
  have hnull {α : Type} (check : Json → Checked α) : optional check .null = .ok none := rfl
  cases o with
  | acted after =>
    have hworld : optional (world medium) (ofWorld after) = .ok (some after) := by
      change (world medium (ofWorld after)).map some = _
      rw [world_ofWorld medium h]
      rfl
    exact tick_object (field_ok rfl hindex) (field_ok rfl (primitive_name p))
      (fieldOr_ok rfl (optional_line l)) (fieldOr_ok rfl hworld) (fieldOr_ok rfl (hnull truthValue))
      (fieldOr_ok rfl (hnull (report medium))) rfl
  | sensed b =>
    exact tick_object (field_ok rfl hindex) (field_ok rfl (primitive_name p))
      (fieldOr_ok rfl (optional_line l)) (fieldOr_ok rfl (hnull (world medium)))
      (fieldOr_ok (a := some b) rfl rfl) (fieldOr_ok rfl (hnull (report medium))) rfl
  | failed r =>
    have hreport : optional (report medium) (ofReport r) = .ok (some r) := by
      change (report medium (ofReport r)).map some = _
      rw [report_ofReport medium h]
      rfl
    exact tick_object (field_ok rfl hindex) (field_ok rfl (primitive_name p))
      (fieldOr_ok rfl (optional_line l)) (fieldOr_ok rfl (hnull (world medium)))
      (fieldOr_ok rfl (hnull truthValue)) (fieldOr_ok rfl hreport) rfl

/-- The document of a recording is read as that recording. -/
theorem recording_ofRecording (medium : Medium) {r : Recording}
    (ht : ∀ t ∈ r.ticks.toList, Readable t) (he : ∀ e, r.error = some e → Plain e) :
    recording medium (ofRecording r) = .ok r := by
  obtain ⟨ticks, error⟩ := r
  have hticks : list medium (tick medium) (.array (ticks.toList.map ofTick)) = .ok ticks.toList :=
    list_array medium fun t h => tick_ofTick medium (ht t h)
  have herror : optional (report medium) (Json.ofOption ofReport error) = .ok error := by
    cases error with
    | none => rfl
    | some e =>
      change (report medium (ofReport e)).map some = _
      rw [report_ofReport medium (he e rfl)]
      rfl
  change (both (fieldOr _ "ticks" _ _) (fieldOr _ "error" _ _)).map _ = _
  rw [fieldOr_ok rfl hticks, fieldOr_ok rfl herror]
  simp [both, Except.map]

end Document

end KarelLab
