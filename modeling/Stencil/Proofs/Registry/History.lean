import Stencil.Proofs.Entries.Pairs
import Stencil.Registry.Sharing
import Mathlib.Data.List.GetD

/-!
# Registries and their histories

A `Ledger` notes what happens to registries: what was registered in each of them, which transforms
were made, and which were applied. A copy starts with the history of its source. The ledger never
looks at a registry, but it knows all of them.

* `Records.step`: a step keeps the registries in line with the ledger.
* `Genuine.step`: a registered transform is the one that was made under its identity.
* `Sharing.registry_step_of_ne`: a step leaves all registries alone but its target.
* `Sharing.registry_history`: names, lookups and call numbers after any run.
-/

namespace Stencil

/-! ## Runs -/

namespace Sharing

/-- The state after several steps. -/
def run (s : Sharing) (steps : List Step) : Sharing := steps.foldl (fun s step => (s.step step).2) s

/-- The registry that a step registers something in. -/
def Step.target? : Step → Option Nat
  | .register target _ _ => some target
  | .share target _ _ _ => some target
  | _ => none

end Sharing

/-- What was registered, in order. -/
abbrev History := List (Text × Counted)

/-- The histories of registries, the transforms that were made, and the identities of those that
were applied, each in order. -/
structure Ledger where
  histories : List History
  made : List Counted
  applied : List Nat

namespace Ledger

/-- One standard registry. -/
def start : Ledger := ⟨[Counted.builtIns 0], (Counted.builtIns 0).map Prod.snd, []⟩

/-- The history of the registry at a position. -/
def history (l : Ledger) (n : Nat) : History := l.histories.getD n []

/-- Notes what is registered in a registry. -/
def note (target : Nat) (name : Text) (c : Counted) (l : Ledger) : Ledger :=
  { l with histories := l.histories.set target (l.history target ++ [(name, c)]) }

/-- Notes a step. What a name stands for is the last thing that was registered under it. -/
def step (l : Ledger) : Sharing.Step → Ledger
  | .addStandard =>
    let builtIns := Counted.builtIns l.made.length
    { l with histories := l.histories ++ [builtIns], made := l.made ++ builtIns.map Prod.snd }
  | .addEmpty => { l with histories := l.histories ++ [[]] }
  | .addCopy source => { l with histories := l.histories ++ [l.history source] }
  | .register target name act =>
    let c : Counted := ⟨l.made.length, act⟩
    { l.note target name c with made := l.made ++ [c] }
  | .share target name source of =>
    match Entries.last? of (l.history source) with
    | none => l
    | some c => l.note target name c
  | .apply target name _ _ =>
    match Entries.last? name (l.history target) with
    | none => l
    | some c => { l with applied := l.applied ++ [c.id] }

/-- The ledger after several steps. -/
def run (l : Ledger) (steps : List Sharing.Step) : Ledger := steps.foldl step l

end Ledger

/-! ## The functions that are always there -/

theorem Counted.ofList_builtIns (id : Nat) : Entries.ofList (builtIns id) = builtIns id := by
  have hkeys : Entries.keys (builtIns id) = Entries.keys Transform.builtIns := rfl
  apply Entries.ofList_of_nodup
  rw [hkeys]
  decide

theorem Counted.id_of_getElem?_builtIns {id i : Nat} {entry : Text × Counted}
    (h : (builtIns id)[i]? = some entry) : entry.2.id = id + i := by
  rw [builtIns, List.getElem?_mapIdx] at h
  obtain ⟨pair, -, rfl⟩ := Option.map_eq_some_iff.mp h
  rfl

/-! ## Registries in line with a ledger -/

/-- Each registry is the table of its history, and the tally counts what was applied. -/
structure Records (l : Ledger) (s : Sharing) : Prop where
  registries : s.registries = l.histories.map Entries.ofList
  tally : ∀ id, s.tally id = l.applied.count id
  nextId : s.nextId = l.made.length

namespace Records

variable {l : Ledger} {s : Sharing}

theorem start : Records Ledger.start Sharing.start where
  registries := by
    rw [Ledger.start, List.map_singleton, Counted.ofList_builtIns]
    rfl
  tally _ := rfl
  nextId := rfl

theorem registry (h : Records l s) (n : Nat) : s.registry n = Entries.ofList (l.history n) := by
  rw [Sharing.registry, h.registries, Ledger.history]
  exact List.getD_map l.histories [] Entries.ofList

theorem find? (h : Records l s) (n : Nat) (name : Text) :
    (s.registry n).find? name = Entries.last? name (l.history n) := by
  rw [h.registry, Registry.find?, Entries.get?_ofList]

theorem note (h : Records l s) (target : Nat) (name : Text) (c : Counted) :
    Records (l.note target name c) (s.put target name c).2 where
  registries := by
    rw [Sharing.put, Ledger.note, List.map_set, Entries.ofList_concat, ← h.registry, ← h.registries]
    rfl
  tally := h.tally
  nextId := h.nextId

theorem push (h : Records l s) (history : History) :
    Records { l with histories := l.histories ++ [history] }
      (s.push (Entries.ofList history)).2 where
  registries := by
    rw [Sharing.push, List.map_append, List.map_singleton, h.registries]
  tally := h.tally
  nextId := h.nextId

/-- A step keeps the registries in line with the ledger. -/
theorem step (h : Records l s) (step : Sharing.Step) : Records (l.step step) (s.step step).2 := by
  cases step with
  | addStandard =>
    have hpush := h.push (Counted.builtIns l.made.length)
    rw [Counted.ofList_builtIns, ← h.nextId] at hpush
    refine ⟨?_, h.tally, ?_⟩
    · rw [Ledger.step, ← h.nextId]
      exact hpush.registries
    · rw [Ledger.step, List.length_append, ← h.nextId]
      rfl
  | addEmpty => exact h.push []
  | addCopy source =>
    have hcopy := h.push (l.history source)
    rwa [← h.registry] at hcopy
  | register target name act =>
    have hnote := h.note target name ⟨s.nextId, act⟩
    refine ⟨?_, h.tally, ?_⟩
    · rw [Ledger.step, ← h.nextId]
      exact hnote.registries
    · rw [Ledger.step, List.length_append, ← h.nextId]
      rfl
  | share target name source of =>
    rw [Sharing.step, Ledger.step, h.find?]
    cases Entries.last? of (l.history source) with
    | none => exact h
    | some c => exact h.note target name c
  | apply target name input args =>
    rw [Sharing.step, Ledger.step, h.find?]
    cases Entries.last? name (l.history target) with
    | none => exact h
    | some c =>
      refine ⟨h.registries, ?_, h.nextId⟩
      intro id
      have htally : (s.tally.add c.id) id = (l.applied ++ [c.id]).count id := by
        rw [List.count_append, ← h.tally]
        by_cases hid : id = c.id
        · rw [hid, Tally.add_self, List.count_singleton_self]
        · rw [Tally.add_of_ne _ hid, List.count_eq_zero_of_not_mem, Nat.add_zero]
          exact fun hmem => hid (List.mem_singleton.mp hmem)
      exact htally

theorem run (h : Records l s) (steps : List Sharing.Step) :
    Records (l.run steps) (s.run steps) := by
  induction steps generalizing l s with
  | nil => exact h
  | cons first more ih => exact ih (h.step first)

end Records

/-! ## Identities -/

namespace Ledger

/-- What is registered is the transform that was made under its identity. -/
def Genuine (l : Ledger) : Prop :=
  ∀ history ∈ l.histories, ∀ entry ∈ history, l.made[entry.2.id]? = some entry.2

namespace Genuine

variable {l : Ledger}

theorem of_mem_history (h : l.Genuine) {n : Nat} {entry : Text × Counted}
    (hentry : entry ∈ l.history n) : l.made[entry.2.id]? = some entry.2 := by
  rw [history, List.getD_eq_getElem?_getD] at hentry
  cases hn : l.histories[n]? with
  | none =>
    rw [hn] at hentry
    cases hentry
  | some history =>
    rw [hn] at hentry
    exact h history (List.mem_of_getElem? hn) entry hentry

/-- Making further transforms does not change the earlier ones. -/
theorem make (h : l.Genuine) (cs : List Counted) :
    Genuine { l with made := l.made ++ cs } := by
  intro history hhistory entry hentry
  have hmade := h history hhistory entry hentry
  obtain ⟨hlt, -⟩ := List.getElem?_eq_some_iff.mp hmade
  exact (List.getElem?_append_left hlt).trans hmade

theorem push (h : l.Genuine) {history : History}
    (hnew : ∀ entry ∈ history, l.made[entry.2.id]? = some entry.2) :
    Genuine { l with histories := l.histories ++ [history] } := by
  intro other hother
  rcases List.mem_append.mp hother with hother | hother
  · exact h other hother
  · rw [List.mem_singleton.mp hother]
    exact hnew

theorem note (h : l.Genuine) {c : Counted} (hc : l.made[c.id]? = some c) (target : Nat)
    (name : Text) : (l.note target name c).Genuine := by
  intro history hhistory entry hentry
  rcases List.mem_or_eq_of_mem_set hhistory with hhistory | rfl
  · exact h history hhistory entry hentry
  · rcases List.mem_append.mp hentry with hentry | hentry
    · exact h.of_mem_history hentry
    · rw [List.mem_singleton.mp hentry]
      exact hc

theorem step (h : l.Genuine) (step : Sharing.Step) : (l.step step).Genuine := by
  cases step with
  | addStandard =>
    apply (h.make _).push
    intro entry hentry
    obtain ⟨i, hi⟩ := List.mem_iff_getElem?.mp hentry
    rw [Counted.id_of_getElem?_builtIns hi, List.getElem?_append_right (Nat.le_add_right _ _),
      Nat.add_sub_cancel_left, List.getElem?_map, hi, Option.map_some]
  | addEmpty => exact h.push fun _ hentry => by cases hentry
  | addCopy source => exact h.push fun _ hentry => h.of_mem_history hentry
  | register target name act =>
    apply (h.make [⟨l.made.length, act⟩]).note
    rw [List.getElem?_append_right (Nat.le_refl _), Nat.sub_self, List.getElem?_cons_zero]
  | share target name source of =>
    rw [Ledger.step]
    cases hc : Entries.last? of (l.history source) with
    | none => exact h
    | some c => exact h.note (h.of_mem_history (Entries.mem_of_last? hc)) target name
  | apply target name input args =>
    rw [Ledger.step]
    cases Entries.last? name (l.history target) with
    | none => exact h
    | some c => exact h

theorem run (h : l.Genuine) (steps : List Sharing.Step) : (l.run steps).Genuine := by
  induction steps generalizing l with
  | nil => exact h
  | cons first more ih => exact ih (h.step first)

end Genuine

theorem genuine_start : start.Genuine := by
  have hempty : Genuine ⟨[], [], []⟩ := fun _ hmem => by cases hmem
  exact hempty.step .addStandard

end Ledger

/-! ## One registry beside another -/

namespace Sharing

theorem registry_put_of_ne (s : Sharing) {target n : Nat} (h : target ≠ n) (name : Text)
    (c : Counted) : (s.put target name c).2.registry n = s.registry n := by
  rw [registry, registry, put, List.getD_eq_getElem?_getD, List.getD_eq_getElem?_getD,
    List.getElem?_set_ne h]

theorem registry_push (s : Sharing) {n : Nat} (h : n < s.registries.length)
    (new : Registry Counted) : (s.push new).2.registry n = s.registry n := by
  rw [registry, registry, push, List.getD_append _ _ _ _ h]

/-- A step leaves all registries alone but its target. -/
theorem registry_step_of_ne (s : Sharing) (step : Step) {n : Nat} (hn : n < s.registries.length)
    (h : step.target? ≠ some n) : (s.step step).2.registry n = s.registry n := by
  cases step with
  | addStandard => exact registry_push { s with nextId := _ } hn _
  | addEmpty => exact s.registry_push hn _
  | addCopy source => exact s.registry_push hn _
  | register target name act =>
    exact registry_put_of_ne { s with nextId := _ } (fun he => h (congrArg some he)) name _
  | share target name source of =>
    rw [Sharing.step]
    cases (s.registry source).find? of with
    | none => rfl
    | some c => exact s.registry_put_of_ne (fun he => h (congrArg some he)) name c
  | apply target name input args =>
    rw [Sharing.step]
    cases (s.registry target).find? name with
    | none => rfl
    | some c => rfl

/-! ## After any run -/

/-- **Registries follow their histories.** After any run, a registry lists the names of its history
in order of their first registration, without repetition, and a name stands for what was registered
under it last. A further step changes no registry but its target. An applied transform sees how
often it was applied before, through whatever registry and name, and transforms with the same
identity are the same. -/
theorem registry_history (steps : List Step) :
    let s := start.run steps
    let l := Ledger.start.run steps
    s.registries.length = l.histories.length ∧
      (∀ n, (s.registry n).names.Nodup ∧
        (s.registry n).names = ((l.history n).map Prod.fst).eraseDups ∧
        ∀ name, (s.registry n).find? name = Entries.last? name (l.history n) ∧
          ((s.registry n).contains name = true ↔ name ∈ (s.registry n).names)) ∧
      (∀ step n, n < s.registries.length → step.target? ≠ some n →
        (s.step step).2.registry n = s.registry n) ∧
      (∀ target name c input args, (s.registry target).find? name = some c →
        (s.step (.apply target name input args)).1 =
          .applied (c.act (l.applied.count c.id + 1) input args)) ∧
      ∀ history ∈ l.histories, ∀ entry ∈ history, l.made[entry.2.id]? = some entry.2 := by
  intro s l
  have hrecords : Records l s := Records.start.run steps
  refine ⟨?_, ?_, ?_, ?_, ?_⟩
  · rw [hrecords.registries, List.length_map]
  · intro n
    refine ⟨?_, ?_, fun name => ⟨hrecords.find? n name, ?_⟩⟩
    · rw [hrecords.registry]
      exact Entries.nodup_keys_ofList _
    · rw [hrecords.registry]
      exact Entries.keys_ofList _
    · rw [Registry.contains, Option.isSome_iff_ne_none, Ne, Registry.find?,
        Entries.get?_eq_none_iff, not_not]
      rfl
  · intro step n hn hstep
    exact s.registry_step_of_ne step hn hstep
  · intro target name c input args hc
    rw [step, hc, ← hrecords.tally]
    rfl
  · exact Ledger.genuine_start.run steps

/-- A copy keeps the old `trim` when the original gets a new one, and a transform that is shared
under another name goes on counting. -/
theorem registry_history_shared :
    let number (n : Nat) (value : Text) (_ : List Text) : Except Text Text :=
      .ok (value ++ List.replicate n '#')
    let steps : List Step := [.addCopy 0, .register 0 "trim".toList number,
      .share 1 "n".toList 0 "trim".toList, .apply 0 "trim".toList ['x'] []]
    let s := start.run steps
    (s.registry 0).names = Entries.keys Transform.builtIns ∧
      (s.registry 1).names = Entries.keys Transform.builtIns ++ ["n".toList] ∧
      ((s.registry 1).find? "trim".toList).map Counted.id = some 0 ∧
      (s.step (.apply 1 "n".toList ['y'] [])).1 = .applied (.ok "y##".toList) := by
  intro number steps s
  obtain ⟨-, hregistries, -, hnumber, -⟩ := registry_history steps
  refine ⟨?_, ?_, ?_, ?_⟩
  · rw [(hregistries 0).2.1]
    decide +kernel
  · rw [(hregistries 1).2.1]
    decide +kernel
  · rw [((hregistries 1).2.2 _).1]
    rfl
  · exact hnumber 1 "n".toList ⟨4, number⟩ ['y'] [] rfl

end Sharing

end Stencil
