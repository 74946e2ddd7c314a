/-
This file is about entries with numbers, of which one at a time becomes another or comes
in with a new number: what a number has afterwards, and how many entries are of some sort.
The statements under way on a handle are such entries.
-/

namespace TableGateway.Roster

variable {Entry : Type} (number : Entry → Nat) {id other : Nat} {next : Entry}

/-- Whoever had a number has become the new entry. -/
theorem find?_replaced (known : number next = id) {old : Entry} {entries : List Entry}
    (found : (entries.find? fun entry => number entry == id) = some old) :
    ((entries.map fun entry => if number entry = id then next else entry).find?
        fun entry => number entry == id) = some next := by
  induction entries with
  | nil => cases found
  | cons entry rest inductionHypothesis =>
    by_cases same : number entry = id
    · have isNext : (number next == id) = true := beq_iff_eq.mpr known
      simp only [List.map_cons, if_pos same, List.find?_cons, isNext]
    · have differs : (number entry == id) = false := beq_eq_false_iff_ne.mpr same
      simp only [List.map_cons, if_neg same, List.find?_cons, differs] at found ⊢
      exact inductionHypothesis found

/-- The other numbers have what they had. -/
theorem find?_replaced_of_ne (known : number next = id) (differs : other ≠ id)
    (entries : List Entry) :
    ((entries.map fun entry => if number entry = id then next else entry).find?
        fun entry => number entry == other) =
      entries.find? fun entry => number entry == other := by
  induction entries with
  | nil => rfl
  | cons entry rest inductionHypothesis =>
    by_cases same : number entry = id
    · have missesNext : (number next == other) = false :=
        beq_eq_false_iff_ne.mpr (known ▸ differs.symm)
      have missesEntry : (number entry == other) = false :=
        beq_eq_false_iff_ne.mpr (same ▸ differs.symm)
      simpa only [List.map_cons, if_pos same, List.find?_cons, missesNext, missesEntry]
        using inductionHypothesis
    · simp only [List.map_cons, if_neg same, List.find?_cons, inductionHypothesis]

/-- The numbers stay as they are. -/
theorem numbers_replaced (known : number next = id) (entries : List Entry) :
    (entries.map fun entry => if number entry = id then next else entry).map number =
      entries.map number := by
  rw [List.map_map]
  refine List.map_congr_left fun entry _ => ?_
  by_cases same : number entry = id
  · rw [Function.comp_apply, if_pos same, known, same]
  · rw [Function.comp_apply, if_neg same]

/-- A number that nobody has changes nothing. -/
theorem replaced_of_absent (next : Entry) {entries : List Entry}
    (absent : id ∉ entries.map number) :
    (entries.map fun entry => if number entry = id then next else entry) = entries := by
  refine (List.map_congr_left fun entry member => ?_).trans entries.map_id
  have differs : number entry ≠ id := fun same => absent (same ▸ List.mem_map_of_mem member)
  rw [if_neg differs, id_eq]

/-- How many entries are of a sort changes by the one that becomes another. -/
theorem countP_replaced (sort : Entry → Bool) {old : Entry} {entries : List Entry}
    (distinct : (entries.map number).Nodup)
    (found : (entries.find? fun entry => number entry == id) = some old) :
    (entries.map fun entry => if number entry = id then next else entry).countP sort +
        (sort old).toNat =
      entries.countP sort + (sort next).toNat := by
  induction entries with
  | nil => cases found
  | cons entry rest inductionHypothesis =>
    obtain ⟨alone, distinctRest⟩ := List.nodup_cons.mp distinct
    by_cases same : number entry = id
    · have isEntry : (number entry == id) = true := beq_iff_eq.mpr same
      simp only [List.find?_cons, isEntry, Option.some.injEq] at found
      subst found
      have rest_same := replaced_of_absent number next (same ▸ alone)
      simp only [List.map_cons, if_pos same, rest_same, List.countP_cons]
      cases sort entry <;> cases sort next <;> rfl
    · have differs : (number entry == id) = false := beq_eq_false_iff_ne.mpr same
      simp only [List.find?_cons, differs] at found
      have counted := inductionHypothesis distinctRest found
      simp only [List.map_cons, if_neg same, List.countP_cons]
      omega

/-! ### Fresh numbers -/

/-- The least number above all numbers, which is how a fresh one is chosen. -/
theorem fresh_not_mem (entries : List Entry) :
    entries.foldl (fun least entry => max least (number entry + 1)) 0 ∉ entries.map number := by
  have above : ∀ (entries : List Entry) (least : Nat),
      least ≤ entries.foldl (fun least entry => max least (number entry + 1)) least ∧
        ∀ entry ∈ entries,
          number entry < entries.foldl (fun least entry => max least (number entry + 1)) least := by
    intro entries
    induction entries with
    | nil => exact fun least => ⟨Nat.le_refl least, fun _ member => absurd member List.not_mem_nil⟩
    | cons entry rest inductionHypothesis =>
      intro least
      obtain ⟨grows, below⟩ := inductionHypothesis (max least (number entry + 1))
      rw [List.foldl_cons]
      refine ⟨by omega, fun other member => ?_⟩
      rcases List.mem_cons.mp member with rfl | later
      · omega
      · exact below other later
  intro taken
  obtain ⟨entry, member, same⟩ := List.mem_map.mp taken
  exact Nat.lt_irrefl _ (same ▸ (above entries 0).2 entry member)

/-- Who comes in under a number that nobody has is found under it. -/
theorem find?_concat {entries : List Entry} (fresh : id ∉ entries.map number)
    (known : number next = id) :
    ((entries ++ [next]).find? fun entry => number entry == id) = some next := by
  have nobody : (entries.find? fun entry => number entry == id) = none := by
    refine List.find?_eq_none.mpr fun entry member same => fresh ?_
    exact List.mem_map.mpr ⟨entry, member, eq_of_beq same⟩
  rw [List.find?_append, nobody, Option.none_or, List.find?_singleton, known, beq_self_eq_true]
  rfl

end TableGateway.Roster
