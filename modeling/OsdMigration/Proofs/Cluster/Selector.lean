import OsdMigration.Cluster.Selector

set_option autoImplicit false

/-! # Selectors of label maps

The selector that is made from a label map asks for exactly its pairs (`selectedBy_encode`), if no
comma stands in them and no equals sign in the names.
-/

namespace OsdMigration

namespace Text

theorem splitAt_of_not_mem {sep : Char} {cs : List Char} (h : sep ∉ cs) :
    splitAt sep cs = [cs] := by
  induction cs with
  | nil => rfl
  | cons c cs ih =>
      obtain ⟨hc, hcs⟩ := not_or.1 fun hm => h (List.mem_cons.2 hm)
      rw [splitAt, if_neg (Ne.symm hc), ih hcs]

theorem splitAt_append {sep : Char} {front : List Char} (rest : List Char) (h : sep ∉ front) :
    splitAt sep (front ++ sep :: rest) = front :: splitAt sep rest := by
  induction front with
  | nil => simp [splitAt]
  | cons c front ih =>
      obtain ⟨hc, hfront⟩ := not_or.1 fun hm => h (List.mem_cons.2 hm)
      rw [List.cons_append, splitAt, if_neg (Ne.symm hc), ih hfront]

/-- Parts without the separator are found again when they are joined with it. -/
theorem split_intercalate {sep : Char} {parts : List String} (hne : parts ≠ [])
    (h : ∀ part ∈ parts, sep ∉ part.toList) :
    split sep ((String.singleton sep).intercalate parts) = parts := by
  have hs : ∀ (first : String) (rest : List String), (∀ part ∈ first :: rest, sep ∉ part.toList) →
      splitAt sep ((String.singleton sep).intercalate (first :: rest)).toList =
        (first :: rest).map String.toList := by
    intro first rest
    induction rest generalizing first with
    | nil =>
        intro h
        simpa using splitAt_of_not_mem (h first (by simp))
    | cons second rest ih =>
        intro h
        rw [String.intercalate_cons_cons, String.toList_append, String.toList_append,
          String.toList_singleton, List.append_assoc, List.singleton_append,
          splitAt_append _ (h first (by simp)), ih second fun part hp =>
            h part (List.mem_cons_of_mem _ hp)]
        rfl
  obtain ⟨first, rest, rfl⟩ := List.exists_cons_of_ne_nil hne
  rw [split, hs first rest h]
  simp [Function.comp_def]

theorem cutAt?_append {sep : Char} {front : List Char} (rest : List Char) (h : sep ∉ front) :
    cutAt? sep (front ++ sep :: rest) = some (front, rest) := by
  have hf : ∀ c ∈ front, (decide (c ≠ sep)) = true := fun c hc =>
    decide_eq_true fun hs => h (hs ▸ hc)
  rw [cutAt?, List.dropWhile_append_of_pos hf, List.takeWhile_append_of_pos hf]
  simp

end Text

namespace Cluster

/-- A name that can stand in a selector. -/
def PlainName (name : String) : Prop := ',' ∉ name.toList ∧ '=' ∉ name.toList

instance (name : String) : Decidable (PlainName name) := inferInstanceAs (Decidable (_ ∧ _))

theorem Selector.ofText_encode {labels : Labels}
    (h : ∀ p ∈ labels.pairs, PlainName p.1 ∧ ',' ∉ p.2.toList) :
    Selector.ofText (Selector.encode labels) =
      labels.pairs.map fun p => .equals p.1 p.2 := by
  have hterm : ∀ p ∈ labels.pairs, Term.ofText (p.1 ++ "=" ++ p.2) = .equals p.1 p.2 := by
    intro p hp
    have hcut : Text.cutAt? '=' (p.1.toList ++ '=' :: p.2.toList) =
        some (p.1.toList, p.2.toList) := Text.cutAt?_append _ (h p hp).1.2
    have hchars : (p.1 ++ "=" ++ p.2).toList = p.1.toList ++ '=' :: p.2.toList := by
      simp
    rw [Term.ofText, hchars, hcut]
    simp
  have hcomma : ∀ part ∈ labels.pairs.map fun p => p.1 ++ "=" ++ p.2, ',' ∉ part.toList := by
    intro part hpart hm
    obtain ⟨p, hp, rfl⟩ := List.mem_map.1 hpart
    have hm : ',' ∈ p.1.toList ∨ ',' ∈ p.2.toList := by
      simpa using hm
    exact hm.elim (h p hp).1.1 (h p hp).2
  have hsep : "," = String.singleton ',' := rfl
  rw [ofText, encode, hsep]
  cases hl : labels.pairs with
  | nil => rfl
  | cons first rest =>
      rw [hl] at hterm hcomma
      rw [Text.split_intercalate (by simp) hcomma, List.filter_eq_self.2,
        List.map_map]
      · exact List.map_congr_left hterm
      · intro part hp
        obtain ⟨p, _, rfl⟩ := List.mem_map.1 hp
        simp

/-- The selector of a label map selects the pods that have all its labels. -/
theorem Pod.selectedBy_encode {labels : Labels}
    (h : ∀ p ∈ labels.pairs, PlainName p.1 ∧ ',' ∉ p.2.toList) (p : Pod) :
    p.selectedBy (Selector.encode labels) =
      labels.pairs.all fun q => p.labels.get? q.1 == some q.2 := by
  rw [Pod.selectedBy, Selector.ofText_encode h, Selector.accepts, List.all_map]
  rfl

end Cluster

end OsdMigration
