import TableMill.Proofs.CalmCalls
import TableMill.Proofs.DistinctWrites

/-!
# Pools on a calm store

Workers that share a calm store do not hinder each other, but that one may claim a key before the
other does. Whatever their turns, a pool ends with every record written or skipped, as a single
writer would have left them.
-/

namespace TableMill

open Writer (keyIn)

/-! ## Records in the hands of workers -/

/-- How far a record is: it waits for a row id, is about to claim its key, is written by the calls
of its body, made and left, or has found its key claimed. -/
inductive Stage
  | waiting
  | claiming (rowid : Int64)
  | writing (rowid : Int64) (made left : List WriteCall)
  | beaten (rowid : Int64)

/-- A record that a worker has taken, and what is left of its task. -/
structure Work where
  item : Item
  task : Task Outcome
  stage : Stage

namespace Work

def shown (x : Work) : Item × Task Outcome := (x.item, x.task)

def rowid? (x : Work) : Option Int64 :=
  match x.stage with
  | .waiting => none
  | .claiming rowid | .writing rowid .. | .beaten rowid => some rowid

def calls (w : Writer) (x : Work) : List WriteCall :=
  match x.stage with
  | .writing rowid made _ => w.claims x.item rowid ++ made
  | _ => []

def entry? (x : Work) : Option (Item × Int64) :=
  match x.stage with
  | .writing rowid .. => some (x.item, rowid)
  | _ => none

/-- What is left of the task fits the stage. -/
inductive Fits (w : Writer) : Work → Prop
  | waiting {item task} (h : task = w.task item) : Fits w ⟨item, task, .waiting⟩
  | claiming {item task rowid index} (hdistinct : w.distinct = some index)
    (h : task.Contested (.insertKey index (keyIn index item) rowid true) (w.body item rowid)
      .written fun _ => .skipped) : Fits w ⟨item, task, .claiming rowid⟩
  | writing {item task rowid made left} (h : task.Straight left .written)
    (hcalls : made ++ left = w.body item rowid) : Fits w ⟨item, task, .writing rowid made left⟩
  | beaten {item rowid index} (hdistinct : w.distinct = some index) :
    Fits w ⟨item, .done .skipped, .beaten rowid⟩

theorem Fits.mem_calls {w : Writer} {x : Work} (h : x.Fits w) {c : WriteCall}
    (hc : c ∈ x.calls w) :
    ∃ rowid, x.rowid? = some rowid ∧ c ∈ w.claims x.item rowid ++ w.body x.item rowid := by
  cases h with
  | @writing item task rowid made left _ hcalls =>
    refine ⟨rowid, rfl, ?_⟩
    rw [← hcalls, ← List.append_assoc]
    exact List.mem_append_left left hc
  | waiting | claiming | beaten => cases hc

theorem Fits.ne_pause {w : Writer} {items : List Item} {start : Store} (hw : w.Ready items start)
    {x : Work} (hitem : x.item ∈ items) (h : x.Fits w) {millis : Nat} {next : Task Outcome} :
    x.task ≠ .pause millis next := by
  intro htask
  cases h with
  | waiting hfirst =>
    obtain ⟨_, hdraw⟩ := hw.task_eq_draw hitem
    cases htask.symm.trans (hfirst.trans hdraw)
  | claiming _ hcontested =>
    obtain ⟨_, hcall, -⟩ := hcontested
    cases htask.symm.trans hcall
  | writing hstraight =>
    subst htask
    cases hstraight
  | beaten => cases htask

/-- A record that is written where keys come first has its own. -/
theorem claim_mem {w : Writer} {index : String} (hdistinct : w.distinct = some index) {x : Work}
    {entry : Item × Int64} (h : x.entry? = some entry) :
    .insertKey index (keyIn index entry.1) entry.2 true ∈ x.calls w := by
  obtain ⟨item, task, stage⟩ := x
  cases stage with
  | writing rowid made left =>
    obtain rfl := Option.some.inj h
    simp [calls, Writer.claims, hdistinct]
  | waiting | claiming | beaten => cases h

/-- The records that workers have taken account for the row ids that are drawn and for what calls
have made of the store. -/
structure Sound (w : Writer) (start : Store) (team : List Work) (drawn : List Int64)
    (s : Store) : Prop where
  fits : ∀ x ∈ team, x.Fits w
  drawn : (team.filterMap rowid?).Perm drawn
  made : s.Made w.table w.indexes start (team.flatMap (calls w))
  new {index : String} (h : w.distinct = some index) :
    ∀ x ∈ team.filterMap entry?, start.idsUnder index (keyIn index x.1) = []
  nodup {index : String} (h : w.distinct = some index) :
    ((team.filterMap entry?).map fun x => keyIn index x.1).Nodup
  beaten {index : String} (h : w.distinct = some index) :
    ∀ x ∈ team, ∀ rowid, x.stage = .beaten rowid → s.idsUnder index (keyIn index x.item) ≠ []

namespace Sound

variable {w : Writer} {items : List Item} {start s : Store} {team others : List Work}
  {drawn : List Int64} {item : Item} {task : Task Outcome} {rowid : Int64} {c : WriteCall}
  {made left left' : List WriteCall}

theorem perm (h : Sound w start team drawn s) {team' : List Work} (hperm : team.Perm team') :
    Sound w start team' drawn s where
  fits x hx := h.fits x (hperm.mem_iff.2 hx)
  drawn := (hperm.filterMap _).symm.trans h.drawn
  made := h.made.perm (hperm.flatMap_right _)
  new hdistinct x hx := h.new hdistinct x ((hperm.filterMap _).mem_iff.2 hx)
  nodup hdistinct := (((hperm.filterMap _).map _).nodup_iff).1 (h.nodup hdistinct)
  beaten hdistinct x hx := h.beaten hdistinct x (hperm.mem_iff.2 hx)

theorem initial (h : start.Calm w.table w.indexes) : Sound w start [] [] start where
  fits := nofun
  drawn := .refl _
  made := .refl h
  new _ := nofun
  nodup _ := List.nodup_nil
  beaten _ := nofun

theorem take (h : Sound w start team drawn s) (item : Item) :
    Sound w start (⟨item, w.task item, .waiting⟩ :: team) drawn s where
  fits := List.forall_mem_cons.2 ⟨.waiting rfl, h.fits⟩
  drawn := h.drawn
  made := h.made
  new := h.new
  nodup := h.nodup
  beaten hdistinct :=
    List.forall_mem_cons.2 ⟨fun _ hstage => Stage.noConfusion hstage, h.beaten hdistinct⟩

theorem draw (hw : w.Ready items start) (hitem : item ∈ items) {next : Int64 → Task Outcome}
    {stage : Stage} (h : Sound w start (⟨item, .draw next, stage⟩ :: others) drawn s)
    (rowid : Int64) :
    ∃ stage', Sound w start (⟨item, next rowid, stage'⟩ :: others) (drawn ++ [rowid]) s := by
  obtain ⟨hfits, hothers⟩ := List.forall_mem_cons.1 h.fits
  cases hfits with
  | claiming _ hcontested =>
    obtain ⟨_, htask, -⟩ := hcontested
    cases htask
  | writing hstraight => cases hstraight
  | waiting htask =>
    have hdrawn : (rowid :: others.filterMap rowid?).Perm (drawn ++ [rowid]) :=
      (h.drawn.cons rowid).trans (List.perm_append_singleton _ _).symm
    cases hdistinct : w.distinct with
    | none =>
      obtain ⟨_, hfirst, hstraight⟩ := Writer.task_dataFirst hdistinct hw.attempts_pos
        (hw.keys hitem)
      obtain rfl := Task.draw.inj (htask.trans hfirst)
      have hclaims : w.claims item rowid = [] := by rw [Writer.claims, hdistinct]; rfl
      have hmade : s.Made w.table w.indexes start
          ((w.claims item rowid ++ []) ++ others.flatMap (calls w)) := by
        rw [hclaims]
        exact h.made
      refine ⟨.writing rowid [] (w.body item rowid), ?_, hdrawn, hmade, ?_, ?_, ?_⟩
      · exact List.forall_mem_cons.2 ⟨.writing (hstraight rowid) rfl, hothers⟩
      all_goals intro index hindex; rw [hdistinct] at hindex; cases hindex
    | some index =>
      obtain ⟨ix, hix⟩ := hw.index_mem hdistinct
      obtain ⟨_, hfirst, hcontested⟩ := Writer.task_distinct hdistinct hw.attempts_pos
        (hw.keys hitem _ hix) (hw.keys hitem)
      obtain rfl := Task.draw.inj (htask.trans hfirst)
      refine ⟨.claiming rowid, ?_, hdrawn, h.made, h.new, h.nodup, ?_⟩
      · exact List.forall_mem_cons.2 ⟨.claiming hdistinct (hcontested rowid), hothers⟩
      · exact fun hindex => List.forall_mem_cons.2
          ⟨fun _ hstage => Stage.noConfusion hstage,
            (List.forall_mem_cons.1 (h.beaten hindex)).2⟩

/-- What a call asks for that is still to be made is not asked for by those made before. -/
theorem not_made {β : Type} {f : WriteCall → Option β}
    (h : ((made ++ c :: left).filterMap f).Nodup) {b : β} (hc : f c = some b) :
    ∀ d ∈ made, f d ≠ some b := by
  intro d hd hb
  rw [List.filterMap_append] at h
  exact (List.nodup_append.1 h).2.2 b (List.mem_filterMap.2 ⟨d, hd, hb⟩) b
    (List.mem_filterMap.2 ⟨c, List.mem_cons_self, hc⟩) rfl

/-- The row of a record can be stored. -/
theorem free (hunused : start.Unused w.table drawn)
    (hcalls : made ++ .insertRow w.table rowid item.record :: left = w.body item rowid)
    (h : Sound w start (⟨item, task, .writing rowid made left'⟩ :: others) drawn s) :
    s.Free w.table rowid := by
  have hnodup : (rowid :: others.filterMap rowid?).Nodup := h.drawn.nodup_iff.2 hunused.nodup
  refine (h.made.free rowid).2 ⟨hunused.free (h.drawn.mem_iff.1 List.mem_cons_self), ?_⟩
  intro row hrow hid
  obtain ⟨d, hd, hrow⟩ := List.mem_filterMap.1 hrow
  rcases List.mem_append.1 (List.flatMap_cons ▸ hd) with hd | hd
  · have hone := w.rows_calls item rowid
    rw [← hcalls, ← List.append_assoc] at hone
    have hrow' : row ∈ [⟨rowid, item.record⟩] :=
      hone ▸ List.mem_filterMap.2 ⟨d, List.mem_append_left _ hd, hrow⟩
    obtain rfl := List.mem_singleton.1 hrow'
    have hnodup : ((w.claims item rowid ++ made ++
        .insertRow w.table rowid item.record :: left).filterMap WriteCall.row?).Nodup := by
      rw [hone]
      exact List.pairwise_singleton ..
    exact not_made hnodup rfl d hd hrow
  · obtain ⟨y, hy, hd⟩ := List.mem_flatMap.1 hd
    obtain ⟨other, hother, hcall⟩ := (h.fits y (List.mem_cons_of_mem _ hy)).mem_calls hd
    have hrow' : row ∈ [⟨other, y.item.record⟩] :=
      w.rows_calls y.item other ▸ List.mem_filterMap.2 ⟨d, hcall, hrow⟩
    obtain rfl := List.mem_singleton.1 hrow'
    exact (List.nodup_cons.1 hnodup).1 (List.mem_filterMap.2 ⟨y, hy, hid ▸ hother⟩)

/-- A unique key that does not come first is not there yet. -/
theorem key_new (hw : w.Ready items start) {queue : List Item}
    (hwhole : (queue ++ item :: others.map Work.item).Perm items) {e : String × Index}
    (he : e ∈ w.laterIndexes) (hunique : e.2.unique = true)
    (hcalls : made ++ Writer.keyCall item rowid e :: left = w.body item rowid)
    (h : Sound w start (⟨item, task, .writing rowid made left'⟩ :: others) drawn s) :
    s.idsUnder e.1 (keyIn e.1 item) = [] := by
  have hitem : item ∈ items := hwhole.mem_iff.1 (List.mem_append_right _ List.mem_cons_self)
  refine h.made.idsUnder_eq_nil.2 ⟨hw.new he hunique hitem, fun r unique hmem => ?_⟩
  rcases List.mem_append.1 (List.flatMap_cons ▸ hmem) with hmem | hmem
  · have hnames := Writer.indexes_calls hw.keyed item rowid
    rw [← hcalls, ← List.append_assoc] at hnames
    exact not_made hnames rfl _ hmem rfl
  · obtain ⟨y, hy, hmem⟩ := List.mem_flatMap.1 hmem
    obtain ⟨other, -, hcall⟩ := (h.fits y (List.mem_cons_of_mem _ hy)).mem_calls hmem
    have hkeys := ((hwhole.map (keyIn e.1)).nodup_iff).2 (hw.nodup he hunique)
    rw [List.map_append, List.map_cons] at hkeys
    refine (List.nodup_cons.1 (List.nodup_append.1 hkeys).2.1).1 ?_
    rw [(Writer.insertKey_of_mem hcall).1, List.map_map]
    exact List.mem_map.2 ⟨y, hy, rfl⟩

/-- A call of a record's body goes through. -/
theorem go {next : StoreResult WriteAnswer → Task Outcome} {s' : Store}
    (hmade : ∀ {calls}, s.Made w.table w.indexes start calls →
      s'.Made w.table w.indexes start (c :: calls))
    (h : Sound w start (⟨item, .call c next, .writing rowid made (c :: left)⟩ :: others) drawn s) :
    Sound w start (⟨item, next (.ok .inserted), .writing rowid (made ++ [c]) left⟩ :: others)
      drawn s' where
  fits := by
    obtain ⟨hfits, hothers⟩ := List.forall_mem_cons.1 h.fits
    refine List.forall_mem_cons.2 ⟨?_, hothers⟩
    cases hfits with
    | writing hstraight hcalls =>
      cases hstraight with
      | call hnext => exact .writing hnext (by rw [List.append_assoc]; exact hcalls)
  drawn := h.drawn
  made := by
    refine (hmade h.made).perm ?_
    simp only [List.flatMap_cons, calls, List.append_assoc, List.singleton_append]
    rw [← List.append_assoc, ← List.append_assoc]
    exact List.perm_middle.symm
  new := h.new
  nodup := h.nodup
  beaten hdistinct := by
    obtain ⟨-, hothers⟩ := List.forall_mem_cons.1 (h.beaten hdistinct)
    exact List.forall_mem_cons.2 ⟨fun _ hstage => Stage.noConfusion hstage, fun x hx rowid hstage =>
      h.made.idsUnder_ne_nil (hmade h.made) (hothers x hx rowid hstage)⟩

/-- The key of a record that comes first is claimed if it is new. -/
theorem claim {next : StoreResult WriteAnswer → Task Outcome} {index : String}
    (hdistinct : w.distinct = some index)
    (hnext : (next (.ok .inserted)).Straight (w.body item rowid) .written)
    (hnew : s.idsUnder index (keyIn index item) = [])
    (h : Sound w start (⟨item, task, .claiming rowid⟩ :: others) drawn s) :
    Sound w start (⟨item, next (.ok .inserted), .writing rowid [] (w.body item rowid)⟩ :: others)
      drawn (s.putKey index (keyIn index item) rowid) := by
  have hclaims : w.claims item rowid = [.insertKey index (keyIn index item) rowid true] := by
    rw [Writer.claims, hdistinct]
    rfl
  have hmade := h.made.putKey index (keyIn index item) rowid true
  obtain ⟨hstart, hnone⟩ := h.made.idsUnder_eq_nil.1 hnew
  obtain ⟨-, hothers⟩ := List.forall_mem_cons.1 h.fits
  refine ⟨List.forall_mem_cons.2 ⟨.writing hnext rfl, hothers⟩, h.drawn, ?_, ?_, ?_, ?_⟩
  · simp only [List.flatMap_cons, calls, hclaims, List.append_nil]
    exact hmade
  · intro name hname
    obtain rfl := Option.some.inj (hdistinct.symm.trans hname)
    exact List.forall_mem_cons.2 ⟨hstart, h.new hdistinct⟩
  · intro name hname
    obtain rfl := Option.some.inj (hdistinct.symm.trans hname)
    refine List.nodup_cons.2 ⟨fun hmem => ?_, h.nodup hdistinct⟩
    obtain ⟨x, hx, hkey⟩ := List.mem_map.1 hmem
    obtain ⟨y, hy, hentry⟩ := List.mem_filterMap.1 hx
    have hkey : keyIn index x.1 = keyIn index item := hkey
    exact hnone x.2 true (List.mem_flatMap.2
      ⟨y, List.mem_cons_of_mem _ hy, hkey ▸ claim_mem hdistinct hentry⟩)
  · intro name hname
    obtain ⟨-, hbeaten⟩ := List.forall_mem_cons.1 (h.beaten hname)
    exact List.forall_mem_cons.2 ⟨fun _ hstage => Stage.noConfusion hstage, fun x hx r hstage =>
      h.made.idsUnder_ne_nil hmade (hbeaten x hx r hstage)⟩

/-- A record whose key is there already is skipped. -/
theorem beat {index : String} (hdistinct : w.distinct = some index)
    (hkey : s.idsUnder index (keyIn index item) ≠ [])
    (h : Sound w start (⟨item, task, .claiming rowid⟩ :: others) drawn s) :
    Sound w start (⟨item, .done .skipped, .beaten rowid⟩ :: others) drawn s := by
  obtain ⟨-, hothers⟩ := List.forall_mem_cons.1 h.fits
  refine ⟨List.forall_mem_cons.2 ⟨.beaten hdistinct, hothers⟩, h.drawn, h.made, h.new, h.nodup, ?_⟩
  intro name hname
  obtain rfl := Option.some.inj (hdistinct.symm.trans hname)
  exact List.forall_mem_cons.2 ⟨fun _ _ => hkey, (List.forall_mem_cons.1 (h.beaten hdistinct)).2⟩

/-- Whatever call is made, its record goes on. -/
theorem call (hw : w.Ready items start) {queue : List Item}
    (hwhole : (queue ++ item :: others.map Work.item).Perm items)
    (hunused : w.Wants start item → start.Unused w.table drawn)
    {next : StoreResult WriteAnswer → Task Outcome} {stage : Stage}
    (h : Sound w start (⟨item, .call c next, stage⟩ :: others) drawn s) :
    ∃ stage', Sound w start (⟨item, next (s.write c).1, stage'⟩ :: others) drawn
      (s.write c).2 := by
  have hitem : item ∈ items := hwhole.mem_iff.1 (List.mem_append_right _ List.mem_cons_self)
  have hcalm := h.made.calm
  have hfits := (List.forall_mem_cons.1 h.fits).1
  cases hfits with
  | waiting htask =>
    obtain ⟨_, hdraw⟩ := hw.task_eq_draw hitem
    cases htask.trans hdraw
  | @claiming _ _ rowid index hdistinct hcontested =>
    obtain ⟨_, htask, hinserted, hpresent⟩ := hcontested
    obtain ⟨rfl, rfl⟩ := Task.call.inj htask
    obtain ⟨ix, hix⟩ := hw.index_mem hdistinct
    have hindex := hcalm.index_isSome hix
    cases hids : s.idsUnder index (keyIn index item) with
    | nil =>
      have hwrite : s.write (.insertKey index (keyIn index item) rowid true) = _ :=
        Store.insertKey_of_new hcalm hindex fun _ => hids
      rw [hwrite]
      exact ⟨_, h.claim hdistinct hinserted hids⟩
    | cons existing more =>
      have hwrite : s.write (.insertKey index (keyIn index item) rowid true) = _ :=
        Store.insertKey_of_present hcalm hindex hids
      rw [hwrite, hpresent]
      exact ⟨_, h.beat hdistinct (hids ▸ List.cons_ne_nil _ _)⟩
  | @writing _ _ rowid made left hstraight hcalls =>
    cases hstraight with
    | @call _ _ left _ hnext =>
      have hc : c ∈ w.body item rowid := hcalls ▸ List.mem_append_right _ List.mem_cons_self
      rcases Writer.mem_body hc with rfl | ⟨e, he, rfl⟩
      · have hwants : w.Wants start item := fun hdistinct =>
          (List.forall_mem_cons.1 (h.new hdistinct)).1
        have hfree := h.free (hunused hwants) hcalls
        have hwrite : s.write (.insertRow w.table rowid item.record) = _ :=
          Store.insertRow_of_free hcalm hfree item.record
        rw [hwrite]
        exact ⟨_, h.go fun hmade => hmade.putRow hfree item.record⟩
      · have hindex := hcalm.index_isSome (List.mem_filter.1 he).1
        have hwrite : s.write (Writer.keyCall item rowid e) = _ :=
          Store.insertKey_of_new hcalm hindex fun hunique => h.key_new hw hwhole he hunique hcalls
        rw [hwrite]
        exact ⟨_, h.go fun hmade => hmade.putKey e.1 (keyIn e.1 item) rowid e.2.unique⟩

end Sound

/-! ## Records at their end -/

theorem rowid?_of_entry? {x : Work} {entry : Item × Int64} (h : x.entry? = some entry) :
    x.rowid? = some entry.2 := by
  obtain ⟨item, task, stage⟩ := x
  cases stage with
  | writing rowid made left =>
    obtain rfl := Option.some.inj h
    rfl
  | waiting | claiming | beaten => cases h

def skipped? (x : Work) : Option Item :=
  match x.stage with
  | .beaten _ => some x.item
  | _ => none

/-- A record is written, or its key was there. -/
inductive Ended (w : Writer) : Work → Prop
  | written {item rowid} : Ended w ⟨item, .done .written, .writing rowid (w.body item rowid) []⟩
  | skipped {item rowid index} (hdistinct : w.distinct = some index) :
    Ended w ⟨item, .done .skipped, .beaten rowid⟩

def outcome (x : Work) : Outcome :=
  match x.stage with
  | .beaten _ => .skipped
  | _ => .written

theorem outcome_or (x : Work) : x.outcome = .written ∨ x.outcome = .skipped := by
  obtain ⟨item, task, stage⟩ := x
  cases stage with
  | beaten => exact .inr rfl
  | waiting | claiming | writing => exact .inl rfl

variable {w : Writer} {items : List Item} {start : Store} {team : List Work}

theorem Fits.ended (hw : w.Ready items start) {x : Work} (hitem : x.item ∈ items)
    (h : x.Fits w) {outcome : Outcome} (htask : x.task = .done outcome) : x.Ended w := by
  cases h with
  | waiting hfirst =>
    obtain ⟨_, hdraw⟩ := hw.task_eq_draw hitem
    cases htask.symm.trans (hfirst.trans hdraw)
  | claiming _ hcontested =>
    obtain ⟨_, hcall, -⟩ := hcontested
    cases htask.symm.trans hcall
  | @writing item task rowid made left hstraight hcalls =>
    obtain rfl : task = .done outcome := htask
    cases hstraight
    rw [List.append_nil] at hcalls
    subst hcalls
    exact .written
  | beaten hdistinct => exact .skipped hdistinct

theorem Ended.task_eq {x : Work} (h : x.Ended w) : x.task = .done x.outcome := by
  cases h <;> rfl

theorem length_rowids (h : ∀ x ∈ team, x.Ended w) :
    (team.filterMap rowid?).length = team.length := by
  induction team with
  | nil => rfl
  | cons x team ih =>
    obtain ⟨hx, hteam⟩ := List.forall_mem_cons.1 h
    cases hx <;> exact congrArg (· + 1) (ih hteam)

theorem items_perm (h : ∀ x ∈ team, x.Ended w) :
    ((team.filterMap entry?).map Prod.fst ++ team.filterMap skipped?).Perm (team.map item) := by
  induction team with
  | nil => exact .refl _
  | cons x team ih =>
    obtain ⟨hx, hteam⟩ := List.forall_mem_cons.1 h
    cases hx with
    | written => exact (ih hteam).cons _
    | skipped => exact List.perm_middle.trans ((ih hteam).cons _)

theorem length_written (h : ∀ x ∈ team, x.Ended w) :
    ((team.map outcome).filter fun o => o = .written).length = (team.filterMap entry?).length := by
  induction team with
  | nil => rfl
  | cons x team ih =>
    obtain ⟨hx, hteam⟩ := List.forall_mem_cons.1 h
    cases hx with
    | written => exact congrArg (· + 1) (ih hteam)
    | skipped => exact ih hteam

theorem rows_of_ended (h : ∀ x ∈ team, x.Ended w) :
    (team.flatMap (calls w)).filterMap WriteCall.row? =
      (team.filterMap entry?).map fun x => ⟨x.2, x.1.record⟩ := by
  induction team with
  | nil => rfl
  | cons x team ih =>
    obtain ⟨hx, hteam⟩ := List.forall_mem_cons.1 h
    rw [List.flatMap_cons, List.filterMap_append, ih hteam]
    cases hx with
    | @written item rowid => exact congrArg (· ++ _) (w.rows_calls item rowid)
    | skipped => rfl

theorem keys_of_ended (h : ∀ x ∈ team, x.Ended w) {e : String × Index} (he : e ∈ w.indexes)
    {key : String} {rowid : Int64} :
    (∃ unique, .insertKey e.1 key rowid unique ∈ team.flatMap (calls w)) ↔
      ∃ x ∈ team.filterMap entry?, keyIn e.1 x.1 = key ∧ x.2 = rowid := by
  constructor
  · rintro ⟨unique, hmem⟩
    obtain ⟨x, hx, hmem⟩ := List.mem_flatMap.1 hmem
    cases h x hx with
    | @written item r =>
      obtain ⟨rfl, rfl⟩ := Writer.insertKey_of_mem hmem
      exact ⟨(item, rowid), List.mem_filterMap.2 ⟨_, hx, rfl⟩, rfl, rfl⟩
    | skipped => cases hmem
  · rintro ⟨entry, hentry, rfl, rfl⟩
    obtain ⟨x, hx, hentry⟩ := List.mem_filterMap.1 hentry
    cases h x hx with
    | @written item r =>
      obtain rfl := Option.some.inj hentry
      by_cases hdistinct : w.distinct = some e.1
      · exact ⟨true, List.mem_flatMap.2 ⟨_, hx, claim_mem hdistinct rfl⟩⟩
      · have hlater : e ∈ w.laterIndexes := List.mem_filter.2 ⟨he, decide_eq_true hdistinct⟩
        refine ⟨e.2.unique, List.mem_flatMap.2 ⟨_, hx, List.mem_append_right _ ?_⟩⟩
        exact List.mem_cons_of_mem _ (List.mem_map.2 ⟨e, hlater, rfl⟩)
    | skipped => cases hentry

theorem Sound.wrote {drawn : List Int64} {s : Store} (hended : ∀ x ∈ team, x.Ended w)
    (h : Sound w start team drawn s) : w.Wrote start s (team.filterMap entry?) where
  calm := h.made.calm
  rows := rows_of_ended hended ▸ h.made.rows
  ids he key rowid := (h.made.ids _ key rowid).trans (or_congr_right (keys_of_ended hended he))
  free rowid := by
    rw [h.made.free, rows_of_ended hended]
    refine and_congr_right fun _ => ?_
    rw [List.forall_mem_map, List.mem_map]
    simp only [not_exists, not_and, ne_eq]
  other := h.made.other

end Work

/-- What a pool leaves of a calm store: records are written under row ids that were drawn, and the
others, whose keys were there, are skipped. -/
structure Writer.CalmEnd (w : Writer) (items : List Item) (start : Store) (drawn : List Int64)
    (s : Store) (entries : List (Item × Int64)) (skipped : List Item) : Prop where
  whole : (entries.map Prod.fst ++ skipped).Perm items
  wrote : w.Wrote start s entries
  drawn : entries.map Prod.snd ⊆ drawn
  same (h : entries = []) : s = start
  none_skipped (h : w.distinct = none) : skipped = []
  new {index : String} (h : w.distinct = some index) :
    ∀ x ∈ entries, start.idsUnder index (keyIn index x.1) = []
  nodup {index : String} (h : w.distinct = some index) :
    (entries.map fun x => keyIn index x.1).Nodup
  present {index : String} (h : w.distinct = some index) :
    ∀ item ∈ skipped, s.idsUnder index (keyIn index item) ≠ []

/-- Records at their end have written or skipped everything. -/
theorem Work.Sound.calmEnd {w : Writer} {items : List Item} {start s : Store} {team : List Work}
    {drawn : List Int64} (hended : ∀ x ∈ team, x.Ended w)
    (hwhole : (team.map Work.item).Perm items) (h : Sound w start team drawn s) :
    w.CalmEnd items start drawn s (team.filterMap entry?) (team.filterMap skipped?) where
  whole := (items_perm hended).trans hwhole
  wrote := h.wrote hended
  drawn rowid hmem := by
    obtain ⟨entry, hentry, rfl⟩ := List.mem_map.1 hmem
    obtain ⟨x, hx, hentry⟩ := List.mem_filterMap.1 hentry
    exact h.drawn.mem_iff.1 (List.mem_filterMap.2 ⟨x, hx, rowid?_of_entry? hentry⟩)
  same hnone := by
    refine h.made.same (List.flatMap_eq_nil_iff.2 fun x hx => ?_)
    have hentry := List.filterMap_eq_nil_iff.1 hnone x hx
    cases hended x hx with
    | written => cases hentry
    | skipped => rfl
  none_skipped hnone := by
    refine List.filterMap_eq_nil_iff.2 fun x hx => ?_
    cases hended x hx with
    | written => rfl
    | skipped hdistinct => cases hnone.symm.trans hdistinct
  new := h.new
  nodup := h.nodup
  present hdistinct item hmem := by
    obtain ⟨x, hx, hskip⟩ := List.mem_filterMap.1 hmem
    cases hended x hx with
    | written => cases hskip
    | skipped =>
      obtain rfl := Option.some.inj hskip
      exact h.beaten hdistinct _ hx _ rfl

namespace Pool

variable {w : Writer} {items : List Item} {start : Store} {p q : Pool} {workers : Nat}
  {moves : List Move}

def endings (settled : List (Item × Outcome)) : List (Item × Task Outcome) :=
  settled.map fun e => (e.1, .done e.2)

/-- The records of a pool wait, or workers have taken them, those that are settled among them. -/
def Accounted (w : Writer) (items : List Item) (start : Store) (p : Pool) : Prop :=
  ∃ team : List Work, Work.Sound w start team p.drawn p.store ∧
    (team.map Work.shown).Perm (p.busy ++ endings p.settled) ∧
    (p.queue ++ team.map Work.item).Perm items

theorem Accounted.advance {item : Item} {task task' : Task Outcome} {queue before after settled}
    {drawn drawn' : List Int64} {store store' : Store}
    (hmove : ∀ stage others, (queue ++ item :: others.map Work.item).Perm items →
      Work.Sound w start (⟨item, task, stage⟩ :: others) drawn store →
      ∃ stage', Work.Sound w start (⟨item, task', stage'⟩ :: others) drawn' store')
    (h : Accounted w items start ⟨queue, before ++ (item, task) :: after, settled, drawn, store⟩) :
    Accounted w items start ⟨queue, before ++ (item, task') :: after, settled, drawn', store'⟩ := by
  obtain ⟨team, hsound, hshown, hwhole⟩ := h
  obtain ⟨x, hx, hxshown⟩ : ∃ x ∈ team, x.shown = (item, task) :=
    List.mem_map.1 (hshown.mem_iff.2 (by simp))
  obtain ⟨front, rear, rfl⟩ := List.append_of_mem hx
  obtain ⟨i, t, stage⟩ := x
  obtain ⟨rfl, rfl⟩ := Prod.mk.inj hxshown
  have hteam : (front ++ ⟨i, t, stage⟩ :: rear).Perm (⟨i, t, stage⟩ :: (front ++ rear)) :=
    List.perm_middle
  have hitems := (((hteam.map Work.item).append_left queue).symm.trans hwhole)
  obtain ⟨stage', hsound'⟩ := hmove stage (front ++ rear) hitems (hsound.perm hteam)
  refine ⟨⟨i, task', stage'⟩ :: (front ++ rear), hsound', ?_, hitems⟩
  have hmiddle (x : Item × Task Outcome) : (before ++ x :: after ++ endings settled).Perm
      (x :: (before ++ after ++ endings settled)) := List.perm_middle.append_right _
  have hothers := ((hteam.map Work.shown).symm.trans hshown).trans (hmiddle _)
  exact (hothers.cons_inv.cons _).trans (hmiddle _).symm

/-- Every move keeps a pool accounted. -/
theorem Accounted.step (hw : w.Ready items start) (hstep : Step w p q)
    (hunused : ∀ item ∈ items, w.Wants start item → start.Unused w.table p.drawn)
    (h : Accounted w items start p) : Accounted w items start q := by
  cases hstep with
  | @take item queue =>
    obtain ⟨team, hsound, hshown, hwhole⟩ := h
    refine ⟨_, hsound.take item, ?_, List.perm_middle.trans hwhole⟩
    rw [List.append_assoc]
    exact (hshown.cons _).trans List.perm_middle.symm
  | @finish item outcome queue before after settled =>
    obtain ⟨team, hsound, hshown, hwhole⟩ := h
    refine ⟨team, hsound, hshown.trans ?_, hwhole⟩
    have hend : endings (settled ++ [(item, outcome)]) =
        endings settled ++ [(item, .done outcome)] := List.map_append
    rw [hend, ← List.append_assoc]
    exact (List.perm_middle.append_right _).trans (List.perm_append_singleton _ _).symm
  | @draw item next rowid =>
    refine h.advance fun stage others hwhole hsound => hsound.draw hw ?_ rowid
    exact hwhole.mem_iff.1 (List.mem_append_right _ List.mem_cons_self)
  | pause =>
    refine h.advance fun stage others hwhole hsound => ?_
    have hitem : _ ∈ items := hwhole.mem_iff.1 (List.mem_append_right _ List.mem_cons_self)
    exact absurd rfl ((List.forall_mem_cons.1 hsound.fits).1.ne_pause hw hitem)
  | @call item =>
    refine h.advance fun stage others hwhole hsound => hsound.call hw hwhole (hunused item ?_)
    exact hwhole.mem_iff.1 (List.mem_append_right _ List.mem_cons_self)

theorem Accounted.length_drawn_le (h : Accounted w items start p) :
    p.drawn.length ≤ items.length := by
  obtain ⟨team, hsound, -, hwhole⟩ := h
  have hrowids := List.length_filterMap_le Work.rowid? team
  have hlength := hwhole.length_eq
  rw [List.length_append, List.length_map] at hlength
  rw [← hsound.drawn.length_eq]
  omega

theorem accounted_run (hw : w.Ready items start)
    (hrun : (Pool.start items start).run w workers moves = some p)
    (hunused : ∀ item ∈ items, w.Wants start item →
      start.Unused w.table (p.drawn.take items.length)) : Accounted w items start p := by
  refine run_induction hrun (fun a b hstep _ hb ha => ?_) ?_
  · have hdrawn : a.drawn <+: p.drawn.take items.length :=
      List.prefix_take_iff.2 ⟨hstep.grows.2.trans hb, ha.length_drawn_le⟩
    exact ha.step hw hstep fun item hitem hwants =>
      (hunused item hitem hwants).sublist hdrawn.sublist
  · exact ⟨[], .initial hw.calm, .refl _, List.Perm.of_eq (List.append_nil _)⟩

theorem outcomes_perm {team : List Work} {settled : List (Item × Outcome)}
    (hended : ∀ x ∈ team, x.Ended w) (hshown : (team.map Work.shown).Perm (endings settled)) :
    (settled.map Prod.snd).Perm (team.map Work.outcome) := by
  have hteam : team.map Work.shown = team.map fun x => (x.item, .done x.outcome) :=
    List.map_congr_left fun x hx => congrArg (Prod.mk x.item) (hended x hx).task_eq
  rw [hteam] at hshown
  have hresults := hshown.filterMap fun x => x.2.result?
  rw [endings, List.filterMap_map, List.filterMap_map] at hresults
  have hleft : team.filterMap (some ∘ Work.outcome) = _ := congrFun List.filterMap_eq_map _
  have hright : settled.filterMap (some ∘ Prod.snd) = _ := congrFun List.filterMap_eq_map _
  exact hright ▸ hleft ▸ hresults.symm

/-- A pool that is done counts records as written or skipped. -/
theorem totals_of_ended {team : List Work} (hended : ∀ x ∈ team, x.Ended w)
    (hshown : (team.map Work.shown).Perm (endings p.settled)) (most : Nat) :
    p.totals most =
      ⟨(team.filterMap Work.entry?).length, (team.filterMap Work.skipped?).length, [], 0⟩ := by
  have houtcomes := outcomes_perm hended hshown
  have hclean : ∀ o ∈ p.settled.map Prod.snd, o = .written ∨ o = .skipped := by
    intro o ho
    obtain ⟨x, -, rfl⟩ := List.mem_map.1 (houtcomes.mem_iff.1 ho)
    exact x.outcome_or
  have hlength := (Work.items_perm hended).length_eq
  rw [List.length_append, List.length_map, List.length_map] at hlength
  rw [totals, totals_of_clean most hclean, (houtcomes.filter _).length_eq, houtcomes.length_eq,
    Work.length_written hended, List.length_map, ← hlength]
  simp [Totals.empty]

/-- On a calm store a pool writes its records or skips them, whatever the turns of its workers. -/
theorem calm_idle (hw : w.Ready items start)
    (hrun : (Pool.start items start).run w workers moves = some p) (hidle : p.Idle)
    (hunused : ∀ item ∈ items, w.Wants start item →
      start.Unused w.table (p.drawn.take items.length)) :
    ∃ entries skipped, w.CalmEnd items start p.drawn p.store entries skipped ∧
      p.drawn.length = items.length ∧
      ∀ most, p.totals most = ⟨entries.length, skipped.length, [], 0⟩ := by
  obtain ⟨team, hsound, hshown, hwhole⟩ := accounted_run hw hrun hunused
  rw [hidle.1, List.nil_append] at hwhole
  rw [hidle.2, List.nil_append] at hshown
  have hended : ∀ x ∈ team, x.Ended w := by
    intro x hx
    obtain ⟨e, -, he⟩ := List.mem_map.1 (hshown.mem_iff.1 (List.mem_map_of_mem hx))
    exact (hsound.fits x hx).ended hw (hwhole.mem_iff.1 (List.mem_map_of_mem hx))
      (congrArg Prod.snd he).symm
  refine ⟨_, _, hsound.calmEnd hended hwhole, ?_, totals_of_ended hended hshown⟩
  rw [← hsound.drawn.length_eq, Work.length_rowids hended, ← hwhole.length_eq, List.length_map]

end Pool
end TableMill
