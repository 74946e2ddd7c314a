/-
This file takes texts apart again. A quoted name ends at its second backtick, since it
has none inside; items that can be told from what comes behind them can be told apart
when they are joined, as long as what comes behind the last does not look like another
separator.
-/

import TableGateway.Identifier

namespace TableGateway

/-- Where a mark comes first can be told whatever comes behind. -/
theorem append_mark_inj {mark : Char} {first second rest others : List Char}
    (plain : mark ∉ first) (plainToo : mark ∉ second)
    (same : first ++ mark :: rest = second ++ mark :: others) : first = second ∧ rest = others := by
  induction first generalizing second with
  | nil =>
    cases second with
    | nil => exact ⟨rfl, (List.cons.inj same).2⟩
    | cons character second =>
      rw [(List.cons.inj same).1] at plainToo
      exact absurd List.mem_cons_self plainToo
  | cons character first inductionHypothesis =>
    cases second with
    | nil =>
      rw [(List.cons.inj same).1] at plain
      exact absurd List.mem_cons_self plain
    | cons other second =>
      obtain ⟨here, behind⟩ := List.cons.inj same
      obtain ⟨later, ended⟩ := inductionHypothesis (fun member =>
        plain (List.mem_cons_of_mem _ member))
        (fun member => plainToo (List.mem_cons_of_mem _ member)) behind
      exact ⟨by rw [here, later], ended⟩

/-- Joined texts, character by character: the first, and each other behind a separator. -/
theorem Text.toList_joinWith (separator first : String) (rest : List String) :
    (joinWith separator (first :: rest)).toList =
      first.toList ++ rest.flatMap fun text => separator.toList ++ text.toList := by
  induction rest generalizing first with
  | nil => exact (List.append_nil _).symm
  | cons second rest inductionHypothesis =>
    rw [joinWith, String.toList_append, String.toList_append, inductionHypothesis,
      List.flatMap_cons, List.append_assoc, List.append_assoc]

namespace Identifier

theorem toList_quoted (identifier : Identifier) :
    identifier.quoted.toList = backtick :: (identifier.name.toList ++ [backtick]) := by
  rw [quoted, String.toList_append, String.toList_append]
  rfl

/-- Where a quoted name ends, and which name it is, can be told whatever comes behind. -/
theorem quoted_append_inj {first second : Identifier} {rest others : List Char}
    (same : first.quoted.toList ++ rest = second.quoted.toList ++ others) :
    first = second ∧ rest = others := by
  rw [toList_quoted, toList_quoted, List.cons_append, List.cons_append, List.append_assoc,
    List.append_assoc, List.singleton_append, List.singleton_append] at same
  obtain ⟨_, inside⟩ := List.cons.inj same
  obtain ⟨names, behind⟩ := append_mark_inj first.plain second.plain inside
  exact ⟨ext_name (String.toList_inj.mp names), behind⟩

end Identifier

/-! ### Lists of items -/

variable {Item Meaning : Type}

/-- What an item means, and where it ends, can be told from its text, whatever comes behind. -/
def IsDecodable (encode : Item → List Char) (meaning : Item → Meaning) : Prop :=
  ∀ (first second : Item) (rest others : List Char),
    encode first ++ rest = encode second ++ others → meaning first = meaning second ∧ rest = others

/-- Items that come each behind a separator can be told apart, if what comes behind them all does
not begin with a separator. -/
theorem decode_separated {encode : Item → List Char} {meaning : Item → Meaning}
    (decodable : IsDecodable encode meaning) {separator : List Char} {items others : List Item}
    {rest last : List Char} (ends : ¬separator <+: rest) (endsToo : ¬separator <+: last)
    (same : items.flatMap (fun item => separator ++ encode item) ++ rest =
      others.flatMap (fun item => separator ++ encode item) ++ last) :
    items.map meaning = others.map meaning ∧ rest = last := by
  induction items generalizing others with
  | nil =>
    cases others with
    | nil => exact ⟨rfl, same⟩
    | cons other others =>
      rw [List.flatMap_nil, List.nil_append, List.flatMap_cons, List.append_assoc,
        List.append_assoc] at same
      exact absurd ⟨_, same.symm⟩ ends
  | cons item items inductionHypothesis =>
    cases others with
    | nil =>
      rw [List.flatMap_nil, List.nil_append, List.flatMap_cons, List.append_assoc,
        List.append_assoc] at same
      exact absurd ⟨_, same⟩ endsToo
    | cons other others =>
      rw [List.flatMap_cons, List.flatMap_cons] at same
      simp only [List.append_assoc] at same
      obtain ⟨meant, behind⟩ := decodable _ _ _ _ (List.append_cancel_left same)
      obtain ⟨meantRest, ended⟩ := inductionHypothesis behind
      exact ⟨by rw [List.map_cons, List.map_cons, meant, meantRest], ended⟩

/-- The same for joined items, of which there is at least one. -/
theorem decode_joined {encode : Item → List Char} {meaning : Item → Meaning}
    (decodable : IsDecodable encode meaning) {separator : List Char} {first other : Item}
    {items others : List Item} {rest last : List Char} (ends : ¬separator <+: rest)
    (endsToo : ¬separator <+: last)
    (same : encode first ++ items.flatMap (fun item => separator ++ encode item) ++ rest =
      encode other ++ others.flatMap (fun item => separator ++ encode item) ++ last) :
    (first :: items).map meaning = (other :: others).map meaning ∧ rest = last := by
  rw [List.append_assoc, List.append_assoc] at same
  obtain ⟨meant, behind⟩ := decodable _ _ _ _ same
  obtain ⟨meantRest, ended⟩ := decode_separated decodable ends endsToo behind
  exact ⟨by rw [List.map_cons, List.map_cons, meant, meantRest], ended⟩

end TableGateway
