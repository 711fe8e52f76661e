import Headhunt.Feishu.Dispatcher

/-! Fencing of outbox claims. A completion names the row id only, so it is fenced
exactly in the runs where no row is claimed again before its worker has written. -/
namespace Headhunt.Feishu
open Headhunt.Storage Transition

variable {ω : Type*} [DecidableEq ω]

theorem FeishuOutboxDispatcher.claim_spec {d : FeishuOutboxDispatcher} {now : Time}
    {locked : Py.UUID → Bool} {table table' : OutboxTable} {item : FeishuOutbox}
    (h : d.claim now locked table = some (item, table')) :
    ∃ row ∈ table, row.claimable now = true ∧ item.id = row.id ∧
      item.attemptCount = row.attemptCount + 1 ∧ item.status = .claimed ∧
      item.claimedBy = some d.workerId ∧
      item.claimExpiresAt = some (now + seconds d.claimLeaseSeconds) ∧
      ∃ f : FeishuOutbox → FeishuOutbox, (∀ r, (f r).id = r.id) ∧ f row = item ∧
        table' = Table.modify FeishuOutbox.id row.id f table := by
  unfold FeishuOutboxDispatcher.claim claimNext at h
  obtain ⟨row, hrow, heq⟩ := Option.map_eq_some_iff.mp h
  obtain ⟨hmem, hcl, _⟩ := buildClaimableOutboxQuery_mem hrow
  obtain ⟨rfl, rfl⟩ := Prod.mk.inj heq
  refine ⟨row, hmem, hcl, rfl, rfl, rfl, rfl, rfl, _, ?_, ?_, rfl⟩
  · intro r
    rfl
  · rfl

/-- Every completion is an update of the named row that leaves its claim counter. -/
theorem FeishuOutboxDispatcher.finish_spec (d : FeishuOutboxDispatcher) (item : FeishuOutbox)
    (currentTime : Time) (outcome : Except OutboxDispatchError Unit) (table : OutboxTable) :
    ∃ f : FeishuOutbox → FeishuOutbox,
      (∀ r, (f r).id = r.id ∧ (f r).attemptCount = r.attemptCount) ∧
      d.finish item currentTime outcome table = Table.modify FeishuOutbox.id item.id f table := by
  cases outcome with
  | ok u => exact ⟨_, by simp, rfl⟩
  | error exc =>
    unfold FeishuOutboxDispatcher.finish
    cases hf : Table.find FeishuOutbox.id item.id table with
    | none => exact ⟨id, by simp, by simp [Table.modify]⟩
    | some current =>
      have hid : current.id = item.id := Table.find_key hf
      dsimp only [FeishuOutboxDispatcher.handleFailure]
      rw [hid]
      generalize (if current.attemptCount = 0 then 1 else current.attemptCount) = attempts
      by_cases hmax : d.maxAttempts ≤ attempts
      · rw [if_pos hmax]
        exact ⟨_, by simp, rfl⟩
      · rw [if_neg hmax]
        split_ifs
        · exact ⟨_, by simp, rfl⟩
        · exact ⟨id, by simp, by simp [Table.modify]⟩

/-- The row is claimed, and by the very claim the worker made. -/
def Owns (h : Held) (r : FeishuOutbox) : Prop :=
  r.status = .claimed ∧ r.claimedBy = h.item.claimedBy ∧
    r.claimExpiresAt = h.item.claimExpiresAt ∧ r.attemptCount = h.item.attemptCount

/-- The worker's row was claimed at least as often as when it claimed it. If not
more often it is still the worker's, and otherwise the worker's lease has run out. -/
def Tracks (clock : Time) (table : OutboxTable) (h : Held) : Prop :=
  ∃ r lease, Table.find FeishuOutbox.id h.item.id table = some r ∧
    h.item.claimExpiresAt = some lease ∧
    (Owns h r ∨ h.item.attemptCount < r.attemptCount ∧ lease ≤ clock)

structure Fenced (s : Cluster ω) : Prop where
  unique : Table.Unique FeishuOutbox.id s.outbox
  tracks : ∀ w h, s.held w = some h → Tracks s.clock s.outbox h
  distinct : ∀ w w' h h', s.held w = some h → s.held w' = some h' →
    h.item.id = h'.item.id → h.item.attemptCount = h'.item.attemptCount → w = w'

/-- A completion write reaches a row that is still the worker's own. -/
def CompletionFenced (s : Cluster ω) : Event ω → Prop
  | .finish w _ => ∀ h, s.held w = some h →
      ∃ r, Table.find FeishuOutbox.id h.item.id s.outbox = some r ∧ Owns h r
  | _ => True

/-- No dispatch has claimed the row again between a worker's claim and its write:
the row's claim counter still has the value that claim gave it. -/
def NotOvertaken (s : Cluster ω) : Event ω → Prop
  | .finish w _ => ∀ h r, s.held w = some h →
      Table.find FeishuOutbox.id h.item.id s.outbox = some r →
      r.attemptCount = h.item.attemptCount
  | _ => True

/-- The worker's lease has not run out when it writes. -/
def Prompt (s : Cluster ω) : Event ω → Prop
  | .finish w _ => ∀ h lease, s.held w = some h → h.item.claimExpiresAt = some lease →
      s.clock < lease
  | _ => True

theorem Tracks.later {clock clock' : Time} {table : OutboxTable} {h : Held}
    (ht : Tracks clock table h) (hc : clock ≤ clock') : Tracks clock' table h := by
  obtain ⟨r, lease, hr, hl, hown | ⟨hlt, hle⟩⟩ := ht
  · exact ⟨r, lease, hr, hl, Or.inl hown⟩
  · exact ⟨r, lease, hr, hl, Or.inr ⟨hlt, hle.trans hc⟩⟩

theorem Tracks.of_find_eq {clock : Time} {table table' : OutboxTable} {h : Held}
    (ht : Tracks clock table h)
    (heq : Table.find FeishuOutbox.id h.item.id table' = Table.find FeishuOutbox.id h.item.id table) :
    Tracks clock table' h := by
  obtain ⟨r, lease, hr, hl, hown⟩ := ht
  exact ⟨r, lease, heq.trans hr, hl, hown⟩

/-- A claim overtakes every worker still busy with the row, and only after its lease. -/
theorem Tracks.claimed {d : FeishuOutboxDispatcher} {clock : Time} {locked : Py.UUID → Bool}
    {table table' : OutboxTable} {item : FeishuOutbox} {h : Held}
    (hu : Table.Unique FeishuOutbox.id table) (ht : Tracks clock table h)
    (hc : d.claim clock locked table = some (item, table')) :
    Tracks clock table' h ∧
      (h.item.id = item.id → h.item.attemptCount < item.attemptCount) := by
  obtain ⟨row, hmem, hcl, hid, hcount, _, _, _, f, hf, hfrow, rfl⟩ :=
    FeishuOutboxDispatcher.claim_spec hc
  obtain ⟨r, lease, hr, hl, hown⟩ := ht
  by_cases hsame : h.item.id = row.id
  · have hrow : r = row := by
      have hfind := (Table.find_eq_some_iff hu).mpr ⟨hmem, hsame.symm⟩
      exact Option.some.inj (hr.symm.trans hfind)
    subst hrow
    have hlease : h.item.attemptCount ≤ r.attemptCount ∧ lease ≤ clock := by
      rcases hown with ⟨hst, _, hexp, hatt⟩ | ⟨hlt, hle⟩
      · rcases FeishuOutbox.claimable_iff.mp hcl with ⟨hp, _⟩ | ⟨_, e, he, hle⟩
        · simp [hst] at hp
        · have hel : e = lease := by
            rw [hexp, hl] at he
            exact (Option.some.inj he).symm
          exact ⟨hatt.ge, hel ▸ hle⟩
      · exact ⟨hlt.le, hle⟩
    have hnew : Table.find FeishuOutbox.id h.item.id (Table.modify FeishuOutbox.id r.id f table) =
        some item := by
      rw [hsame, Table.find_modify_self hf, ← hsame, hr, Option.map_some, hfrow]
    refine ⟨⟨item, lease, hnew, hl, Or.inr ⟨?_, hlease.2⟩⟩, fun _ => ?_⟩ <;>
      have := hlease.1 <;> omega
  · refine ⟨⟨r, lease, ?_, hl, hown⟩, ?_⟩
    · rw [Table.find_modify_ne hf _ hsame]
      exact hr
    · intro he
      exact absurd (he.trans hid) hsame

omit [DecidableEq ω] in
/-- A completion that is not overtaken meets the worker's own claim. -/
theorem Fenced.owns {s : Cluster ω} (hs : Fenced s) {w : ω} {h : Held} (hw : s.held w = some h)
    (hn : ∀ r, Table.find FeishuOutbox.id h.item.id s.outbox = some r →
      r.attemptCount = h.item.attemptCount) :
    ∃ r, Table.find FeishuOutbox.id h.item.id s.outbox = some r ∧ Owns h r := by
  obtain ⟨r, lease, hr, _, hown | ⟨hlt, _⟩⟩ := hs.tracks w h hw
  · exact ⟨r, hr, hown⟩
  · have := hn r hr
    omega

private theorem held_update {s : Cluster ω} {w w' : ω} {h' : Held}
    (h : Function.update s.held w none w' = some h') : w' ≠ w ∧ s.held w' = some h' := by
  by_cases he : w' = w
  · simp [he] at h
  · exact ⟨he, by simpa [he] using h⟩

theorem Fenced.release {s : Cluster ω} (hs : Fenced s) (w : ω) :
    Fenced { s with held := Function.update s.held w none } where
  unique := hs.unique
  tracks := fun w' h' hw' => hs.tracks w' h' (held_update hw').2
  distinct := fun w' w'' h' h'' hw' hw'' =>
    hs.distinct w' w'' h' h'' (held_update hw').2 (held_update hw'').2

theorem Fenced.finish {s : Cluster ω} (hs : Fenced s) {w : ω} {h : Held}
    (hw : s.held w = some h) {r : FeishuOutbox}
    (hr : Table.find FeishuOutbox.id h.item.id s.outbox = some r) (hown : Owns h r)
    {f : FeishuOutbox → FeishuOutbox} (hid : ∀ r, (f r).id = r.id)
    (hatt : ∀ r, (f r).attemptCount = r.attemptCount) :
    Fenced { s with
      outbox := Table.modify FeishuOutbox.id h.item.id f s.outbox
      held := Function.update s.held w none } where
  unique := hs.unique.modify hid
  tracks := by
    intro w' h' hw'
    obtain ⟨hne, hw'⟩ := held_update hw'
    obtain ⟨r', lease, hr', hl, hown'⟩ := hs.tracks w' h' hw'
    by_cases hsame : h'.item.id = h.item.id
    · -- another worker on the same row: it was overtaken by this one
      have hrr : r' = r := by
        rw [hsame] at hr'
        exact Option.some.inj (hr'.symm.trans hr)
      subst hrr
      have hlt : h'.item.attemptCount < r'.attemptCount ∧ lease ≤ s.clock := by
        rcases hown' with ⟨_, _, _, heq⟩ | hlt
        · exact absurd (hs.distinct w' w h' h hw' hw hsame (heq.symm.trans hown.2.2.2)) hne
        · exact hlt
      refine ⟨f r', lease, ?_, hl, Or.inr ?_⟩
      · rw [hsame, Table.find_modify_self hid, hr, Option.map_some]
      · rw [hatt]
        exact hlt
    · refine ⟨r', lease, ?_, hl, hown'⟩
      rw [Table.find_modify_ne hid _ hsame]
      exact hr'
  distinct := fun w' w'' h' h'' hw' hw'' =>
    hs.distinct w' w'' h' h'' (held_update hw').2 (held_update hw'').2

theorem Fenced.claim {s : Cluster ω} (hs : Fenced s) {w : ω} {d : FeishuOutboxDispatcher}
    {locked : Py.UUID → Bool} {item : FeishuOutbox} {table : OutboxTable}
    (hc : d.claim s.clock locked s.outbox = some (item, table)) :
    Fenced { s with
      outbox := table
      held := Function.update s.held w (some ⟨item, s.clock⟩) } := by
  have hother : ∀ w' h', w' ≠ w → Function.update s.held w (some ⟨item, s.clock⟩) w' = some h' →
      s.held w' = some h' := by
    intro w' h' hne hw'
    simpa [hne] using hw'
  have hself : ∀ h', Function.update s.held w (some ⟨item, s.clock⟩) w = some h' →
      h' = ⟨item, s.clock⟩ := by
    intro h' hw'
    simpa using hw'.symm
  obtain ⟨row, hmem, _, hid, hcount, hst, hby, hexp, f, hf, hfrow, htable⟩ :=
    FeishuOutboxDispatcher.claim_spec hc
  have hfresh : ∀ w' h', w' ≠ w → s.held w' = some h' → h'.item.id = item.id →
      h'.item.attemptCount < item.attemptCount := fun w' h' _ hw' =>
    (Tracks.claimed hs.unique (hs.tracks w' h' hw') hc).2
  refine ⟨htable ▸ hs.unique.modify hf, ?_, ?_⟩
  · intro w' h' hw'
    by_cases hne : w' = w
    · subst hne
      obtain rfl := hself h' hw'
      refine ⟨item, _, ?_, hexp, Or.inl ⟨hst, rfl, rfl, rfl⟩⟩
      have hfind := (Table.find_eq_some_iff hs.unique).mpr ⟨hmem, rfl⟩
      rw [htable, hid, Table.find_modify_self hf, hfind, Option.map_some, hfrow]
    · exact (Tracks.claimed hs.unique (hs.tracks w' h' (hother w' h' hne hw')) hc).1
  · intro w' w'' h' h'' hw' hw'' hsame hcnt
    by_cases hne : w' = w <;> by_cases hne' : w'' = w
    · exact hne.trans hne'.symm
    · subst hne
      obtain rfl := hself h' hw'
      exact absurd hcnt (hfresh w'' h'' hne' (hother w'' h'' hne' hw'') hsame.symm).ne'
    · subst hne'
      obtain rfl := hself h'' hw''
      exact absurd hcnt (hfresh w' h' hne (hother w' h' hne hw') hsame).ne
    · exact hs.distinct w' w'' h' h'' (hother w' h' hne hw') (hother w'' h'' hne' hw'') hsame hcnt

variable {config : ω → FeishuOutboxDispatcher}

/-- One step: an overtaken completion is the only event that breaks the fence. -/
theorem Fenced.step {s t : Cluster ω} {e : Event ω} (hs : Fenced s) (hn : NotOvertaken s e)
    (h : s.step config e = some t) : Fenced t := by
  cases e with
  | tick d =>
    obtain rfl := Option.some.inj h
    refine ⟨hs.unique, ?_, hs.distinct⟩
    intro w h' hw
    exact (hs.tracks w h' hw).later (by simp)
  | enqueue row =>
    simp only [Cluster.step] at h
    split_ifs at h with hrow
    obtain rfl := Option.some.inj h
    simp only [Enqueueable, decide_eq_true_eq] at hrow
    refine ⟨hs.unique.append_singleton hrow.2.2.2.2.1, ?_, hs.distinct⟩
    intro w h' hw
    have ht := hs.tracks w h' hw
    refine ht.of_find_eq ?_
    obtain ⟨r, _, hr, _⟩ := ht
    rw [Table.find_append_singleton, hr, Option.some_or]
  | claim w locked =>
    simp only [Cluster.step] at h
    cases hw : s.held w with
    | some h' => simp [hw] at h
    | none =>
      cases hc : (config w).claim s.clock locked s.outbox with
      | none =>
        obtain rfl : s = t := by simpa [hw, hc] using h
        exact hs
      | some p =>
        obtain rfl := (by simpa [hw, hc] using h :
          { s with
            outbox := p.2
            held := Function.update s.held w (some ⟨p.1, s.clock⟩) } = t)
        exact hs.claim hc
  | finish w outcome =>
    obtain ⟨h', hw, rfl⟩ := Option.map_eq_some_iff.mp h
    obtain ⟨r, hr, hown⟩ := hs.owns hw (fun r hr => hn h' r hw hr)
    obtain ⟨f, hf, heq⟩ := (config w).finish_spec h'.item h'.currentTime outcome s.outbox
    rw [heq]
    exact hs.finish hw hr hown (fun r => (hf r).1) (fun r => (hf r).2)
  | crash w =>
    obtain rfl := Option.some.inj h
    exact hs.release w

def Initial (s : Cluster ω) : Prop :=
  Table.Unique FeishuOutbox.id s.outbox ∧ ∀ w, s.held w = none

omit [DecidableEq ω] in
theorem Fenced.initial {s : Cluster ω} (hs : Initial s) : Fenced s where
  unique := hs.1
  tracks := fun w h hw => by simp [hs.2 w] at hw
  distinct := fun w _ h _ hw => by simp [hs.2 w] at hw

def HeldNotClaimable (s : Cluster ω) : Prop :=
  ∀ w h lease r, s.held w = some h → h.item.claimExpiresAt = some lease → s.clock < lease →
    Table.find FeishuOutbox.id h.item.id s.outbox = some r → r.claimable s.clock = false

def FinalAt (id : Py.UUID) (st : OutboxStatus) (s : Cluster ω) : Prop :=
  ∃ r, Table.find FeishuOutbox.id id s.outbox = some r ∧ r.status = st

omit [DecidableEq ω] in
theorem Fenced.heldNotClaimable {s : Cluster ω} (hs : Fenced s) : HeldNotClaimable s := by
  intro w h lease r hw hl hlt hr
  obtain ⟨r', lease', hr', hl', hown | ⟨_, hle⟩⟩ := hs.tracks w h hw
  · obtain rfl : r' = r := Option.some.inj (hr'.symm.trans hr)
    rw [Bool.eq_false_iff]
    intro hcl
    rcases FeishuOutbox.claimable_iff.mp hcl with ⟨hp, _⟩ | ⟨_, e, he, hle⟩
    · simp [hown.1] at hp
    · have hel : e = lease := by
        rw [hown.2.2.1, hl] at he
        exact (Option.some.inj he).symm
      exact absurd hlt (not_lt.mpr (hel ▸ hle))
  · obtain rfl : lease' = lease := Option.some.inj (hl'.symm.trans hl)
    exact absurd hlt (not_lt.mpr hle)

/-- One step of a fenced cluster leaves the status of a finished row. -/
theorem FinalAt.step {s t : Cluster ω} {e : Event ω} {id : Py.UUID} {st : OutboxStatus}
    (hs : Fenced s) (hst : st.IsFinal) (hf : FinalAt id st s) (hn : NotOvertaken s e)
    (h : s.step config e = some t) : FinalAt id st t := by
  obtain ⟨r, hr, hrst⟩ := hf
  have hpend : r.status ≠ .pending ∧ r.status ≠ .claimed := by
    rw [hrst]
    cases st <;> simp_all [OutboxStatus.IsFinal]
  cases e with
  | tick d =>
    obtain rfl := Option.some.inj h
    exact ⟨r, hr, hrst⟩
  | enqueue row =>
    simp only [Cluster.step] at h
    split_ifs at h
    obtain rfl := Option.some.inj h
    refine ⟨r, ?_, hrst⟩
    rw [Table.find_append_singleton, hr, Option.some_or]
  | claim w locked =>
    simp only [Cluster.step] at h
    cases hw : s.held w with
    | some h' => simp [hw] at h
    | none =>
      cases hc : (config w).claim s.clock locked s.outbox with
      | none =>
        obtain rfl : s = t := by simpa [hw, hc] using h
        exact ⟨r, hr, hrst⟩
      | some p =>
        obtain rfl := (by simpa [hw, hc] using h :
          { s with
            outbox := p.2
            held := Function.update s.held w (some ⟨p.1, s.clock⟩) } = t)
        obtain ⟨row, hmem, hcl, _, _, _, _, _, f, hid, _, htable⟩ :=
          FeishuOutboxDispatcher.claim_spec hc
        refine ⟨r, ?_, hrst⟩
        have hne : id ≠ row.id := by
          rintro rfl
          have hrow : row = r :=
            Option.some.inj (((Table.find_eq_some_iff hs.unique).mpr ⟨hmem, rfl⟩).symm.trans hr)
          subst hrow
          rcases FeishuOutbox.claimable_iff.mp hcl with ⟨hp, _⟩ | ⟨hp, _⟩
          · exact hpend.1 hp
          · exact hpend.2 hp
        rw [htable, Table.find_modify_ne hid _ hne]
        exact hr
  | finish w outcome =>
    obtain ⟨h', hw, rfl⟩ := Option.map_eq_some_iff.mp h
    obtain ⟨r', hr', hown⟩ := hs.owns hw (fun r hr => hn h' r hw hr)
    obtain ⟨f, hf, heq⟩ := (config w).finish_spec h'.item h'.currentTime outcome s.outbox
    refine ⟨r, ?_, hrst⟩
    have hne : id ≠ h'.item.id := by
      rintro rfl
      obtain rfl : r' = r := Option.some.inj (hr'.symm.trans hr)
      exact hpend.2 hown.1
    rw [heq, Table.find_modify_ne (fun r => (hf r).1) _ hne]
    exact hr
  | crash w =>
    obtain rfl := Option.some.inj h
    exact ⟨r, hr, hrst⟩

/-- What fencing promises of a run from `s` to `t`. -/
structure RunFenced (config : ω → FeishuOutboxDispatcher) (s t : Cluster ω)
    (tr : List (Event ω)) : Prop where
  completions : Along (Cluster.step config) CompletionFenced s tr
  final : ∀ pre post u, tr = pre ++ post → exec (Cluster.step config) s pre = some u →
    ∀ id st, st.IsFinal → FinalAt id st u → FinalAt id st t
  held : HeldNotClaimable t

theorem along_completionFenced {s : Cluster ω} {tr : List (Event ω)} (hs : Fenced s)
    (hn : Along (Cluster.step config) NotOvertaken s tr) :
    Along (Cluster.step config) CompletionFenced s tr := by
  refine Along.of_invariant Fenced (fun _ _ _ => Fenced.step) ?_ hs hn
  intro s e hs hn
  cases e with
  | finish w outcome => exact fun h hw => hs.owns hw (fun r hr => hn h r hw hr)
  | _ => trivial

/-- The fence holds of a run exactly when no completion in it was overtaken. -/
theorem runFenced_iff_not_overtaken {s t : Cluster ω} {tr : List (Event ω)} (hs : Initial s)
    (hrun : exec (Cluster.step config) s tr = some t) :
    RunFenced config s t tr ↔ Along (Cluster.step config) NotOvertaken s tr := by
  constructor
  · intro h
    refine Along.mono ?_ h.completions
    intro s e hc
    cases e with
    | finish w outcome =>
      intro h r hw hr
      obtain ⟨r', hr', hown⟩ := hc h hw
      obtain rfl : r' = r := Option.some.inj (hr'.symm.trans hr)
      exact hown.2.2.2
    | _ => trivial
  · intro hn
    have hs := Fenced.initial hs
    have hinv : ∀ {u : Cluster ω} {pre : List (Event ω)},
        exec (Cluster.step config) s pre = some u →
        Along (Cluster.step config) NotOvertaken s pre → Fenced u := fun hu hp =>
      exec_invariant Fenced (fun _ _ _ => Fenced.step) hs hp hu
    refine ⟨along_completionFenced hs hn, ?_, (hinv hrun hn).heldNotClaimable⟩
    rintro pre post u rfl hu id st hst hfin
    obtain ⟨u', hu', hpost⟩ := exec_append_eq_some.mp hrun
    obtain rfl : u' = u := Option.some.inj (hu'.symm.trans hu)
    obtain ⟨hpre, hn⟩ := (along_append hu).mp hn
    refine (exec_invariant (fun s => Fenced s ∧ FinalAt id st s) ?_
      ⟨hinv hu hpre, hfin⟩ hn hpost).2
    rintro s e t ⟨hs, hf⟩ hn h
    exact ⟨hs.step hn h, hf.step hs hst hn h⟩

/-- Workers that write within their lease are never overtaken. -/
theorem along_notOvertaken_of_prompt {s : Cluster ω} {tr : List (Event ω)} (hs : Initial s)
    (hp : Along (Cluster.step config) Prompt s tr) :
    Along (Cluster.step config) NotOvertaken s tr := by
  have hone : ∀ (s : Cluster ω) e, Fenced s → Prompt s e → NotOvertaken s e := by
    intro s e hs hp
    cases e with
    | finish w outcome =>
      intro h r hw hr
      obtain ⟨r', lease, hr', hl, hown | ⟨_, hle⟩⟩ := hs.tracks w h hw
      · obtain rfl : r' = r := Option.some.inj (hr'.symm.trans hr)
        exact hown.2.2.2
      · exact absurd (hp h lease hw hl) (not_lt.mpr hle)
    | _ => trivial
  exact Along.of_invariant Fenced (fun s e t hs hp h => hs.step (hone s e hs hp) h) hone
    (Fenced.initial hs) hp

def OutboxFencing (config : ω → FeishuOutboxDispatcher) : Prop :=
  ∀ (s t : Cluster ω) (tr : List (Event ω)), Initial s →
    exec (Cluster.step config) s tr = some t → RunFenced config s t tr

def lateRow : FeishuOutbox where
  id := Py.UUID.ofNat 1
  kind := .resume
  idempotencyKey := "resume:k"
  threadId := none
  payloadRef := "artifact://feishu-callback/h"
  status := .pending
  attemptCount := 0
  nextAttemptAt := 0
  claimedBy := none
  claimedAt := none
  claimExpiresAt := none
  lastError := none
  createdAt := 0

def twoWorkers (w : Bool) : FeishuOutboxDispatcher := { workerId := if w then "a" else "b" }

def lateStart : Cluster Bool := ⟨0, [lateRow], fun _ => none⟩

def lateClaims : List (Event Bool) :=
  [.claim true fun _ => false, .tick 300000000, .claim false fun _ => false,
    .finish false (.ok ())]

theorem lateStart_initial : Initial lateStart := ⟨by simp [lateStart, Table.Unique], fun _ => rfl⟩

/-- The first worker fails after the second has succeeded, and the row is pending again. -/
theorem not_outboxFencing : ¬ OutboxFencing twoWorkers := by
  intro hall
  have hpre : (exec (Cluster.step twoWorkers) lateStart lateClaims).map
      (fun s => s.outbox.map FeishuOutbox.status) = some [.succeeded] := by decide
  have hrun : (exec (Cluster.step twoWorkers) lateStart
      (lateClaims ++ [.finish true (.error ⟨"timeout", none⟩)])).map
      (fun s => s.outbox.map FeishuOutbox.status) = some [.pending] := by decide
  obtain ⟨u, hu, hust⟩ := Option.map_eq_some_iff.mp hpre
  obtain ⟨t, ht, htst⟩ := Option.map_eq_some_iff.mp hrun
  obtain ⟨r, hr, hrst⟩ := List.map_eq_singleton_iff.mp hust
  have hid : r.id = lateRow.id := by
    have hids : (exec (Cluster.step twoWorkers) lateStart lateClaims).map
        (fun s => s.outbox.map FeishuOutbox.id) = some [lateRow.id] := by decide
    rw [hu, Option.map_some, hr] at hids
    simpa using hids
  have hfin : FinalAt lateRow.id .succeeded u :=
    ⟨r, by rw [hr]; simp [Table.find, hid], hrst⟩
  obtain ⟨r', hr', hst'⟩ := (hall lateStart t _ lateStart_initial ht).final lateClaims _ u rfl hu
    lateRow.id .succeeded trivial hfin
  have hmem : r'.status ∈ t.outbox.map FeishuOutbox.status :=
    List.mem_map_of_mem (Table.find_mem hr')
  rw [htst, hst'] at hmem
  simp at hmem

def promptRow : FeishuOutbox :=
  { lateRow with id := Py.UUID.ofNat 2, kind := .graphDispatch, idempotencyKey := "graph:k" }

def bothBusy : List (Event Bool) :=
  [.claim true fun _ => false, .tick 1000000, .claim false fun _ => false,
    .finish true (.error ⟨"timeout", none⟩), .finish false (.ok ())]

def keepsCount (s : Cluster Bool) : Event Bool → Bool
  | .finish w _ => (s.held w).all fun h =>
    (Table.find FeishuOutbox.id h.item.id s.outbox).all fun r =>
      r.attemptCount = h.item.attemptCount
  | _ => true

theorem notOvertaken_of_keepsCount (s : Cluster Bool) (e : Event Bool)
    (h : keepsCount s e = true) : NotOvertaken s e := by
  cases e with
  | finish w outcome =>
    intro held r hw hr
    simpa [keepsCount, hw, hr] using h
  | _ => trivial

/-- Two workers that hold a row each at the same time. -/
theorem runFenced_bothBusy : ∃ t,
    exec (Cluster.step twoWorkers) ⟨0, [lateRow, promptRow], fun _ => none⟩ bothBusy = some t ∧
      RunFenced twoWorkers ⟨0, [lateRow, promptRow], fun _ => none⟩ t bothBusy := by
  have hinitial : Initial (⟨0, [lateRow, promptRow], fun _ => none⟩ : Cluster Bool) :=
    ⟨by unfold Table.Unique; decide, fun _ => rfl⟩
  have hsome : (exec (Cluster.step twoWorkers) ⟨0, [lateRow, promptRow], fun _ => none⟩
      bothBusy).isSome = true := by decide
  obtain ⟨t, ht⟩ := Option.isSome_iff_exists.mp hsome
  refine ⟨t, ht, (runFenced_iff_not_overtaken hinitial ht).mpr ?_⟩
  apply along_of_checkAlong notOvertaken_of_keepsCount
  decide

end Headhunt.Feishu
