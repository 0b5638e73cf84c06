/-
Entries of a mapping: keys, and what setting entries does.

# Keys

Scalars of different kinds can be one key, so the theory of entries rests on
`Scalar.sameKey` being an equivalence. It has three grounds, of which a scalar
allows only one: being the same number, the same instant, or the same scalar
(`sameKey_iff`). A text is no other key than itself (`sameKey_text_iff`).

# Setting entries

Setting an entry changes what is found under its key and nothing else
(`find?_insert`), and makes one key known (`has_insert_iff`). Setting several
entries one after the other, some of them may take each other's place first: as
long as they form a mapping, it does not matter whether that happens before they
are set or after (`insertAll_insertAll`). Read from the outside, the last value
set under a key counts (`find?_insertAll`), and keys stand in the order in which
they first appeared (`map_fst_insertAll`).

# Mappings

In a mapping every key stands once, so its first entry with a key is its last one
(`IsMapping.last?_eq_find?`), and reading it from its entries changes nothing
(`ofList_eq_self`). What kind of text all keys are can be asked of the parts before
entries are set (`keyed_insertAll_iff`).
-/
import ApiCommands.Document.Value

namespace ApiCommands

-- ====================================================== points in time

namespace Calendar.DateTime

/-- Two points are the same if they are one, or the same instant by clocks that are both known. -/
theorem isSame_iff {s t : DateTime} :
    s.isSame t = true
      ↔ s = t ∨ ∃ m n, s.offset? = some m ∧ t.offset? = some n ∧ s.instant m = t.instant n := by
  unfold isSame
  cases hs : s.offset? with
  | none =>
      simp
  | some m =>
      cases ht : t.offset? with
      | none =>
          simp
      | some n =>
          simp only [beq_iff_eq, Option.some.injEq]
          constructor
          · exact fun h => Or.inr ⟨m, n, rfl, rfl, h⟩
          · rintro (rfl | ⟨m', n', rfl, rfl, h⟩)
            · rw [Option.some.inj (hs.symm.trans ht)]
            · exact h

theorem isSame_symm {s t : DateTime} (h : s.isSame t = true) : t.isSame s = true := by
  rw [isSame_iff] at h ⊢
  rcases h with rfl | ⟨m, n, hs, ht, heq⟩
  · exact Or.inl rfl
  · exact Or.inr ⟨n, m, ht, hs, heq.symm⟩

theorem isSame_trans {s t u : DateTime} (h : s.isSame t = true) (h' : t.isSame u = true) :
    s.isSame u = true := by
  rw [isSame_iff] at h h' ⊢
  rcases h with rfl | ⟨m, n, hs, ht, heq⟩
  · exact h'
  · rcases h' with rfl | ⟨n', k, ht', hu, heq'⟩
    · exact Or.inr ⟨m, n, hs, ht, heq⟩
    · obtain rfl := Option.some.inj (ht.symm.trans ht')
      exact Or.inr ⟨m, k, hs, hu, heq.trans heq'⟩

end Calendar.DateTime

-- ====================================================== keys

namespace Scalar

/-- Two scalars are one key as one number, as one point in time, or as one scalar. -/
theorem sameKey_iff {a b : Scalar} :
    a.sameKey b = true
      ↔ (∃ n, a.number? = some n ∧ b.number? = some n)
        ∨ (∃ s t, a = .dateTime s ∧ b = .dateTime t ∧ s.isSame t = true)
        ∨ a.number? = none ∧ a = b := by
  unfold sameKey
  split
  · simp [number?]
  · next s t =>
    simp only [number?, reduceCtorEq, false_and, exists_false, dateTime.injEq, true_and, false_or]
    constructor
    · exact fun h => Or.inl ⟨s, t, rfl, rfl, h⟩
    · rintro (⟨_, _, rfl, rfl, h⟩ | rfl)
      · exact h
      · exact s.isSame_self
  · next hdate =>
    have hnone : ¬∃ s t, a = .dateTime s ∧ b = .dateTime t ∧ s.isSame t = true := by
      rintro ⟨s, t, rfl, rfl, -⟩
      exact hdate s t rfl rfl
    rw [or_iff_right hnone]
    cases ha : a.number? with
    | some m =>
        cases hb : b.number? with
        | some n =>
            simp only [beq_iff_eq, Option.some.injEq, reduceCtorEq, false_and, or_false]
            exact ⟨fun h => ⟨n, h, rfl⟩, fun ⟨_, hm, hn⟩ => hm.trans hn.symm⟩
        | none => simp
    | none =>
        cases hb : b.number? with
        | some n =>
            have hne : a ≠ b := fun heq => by simp [heq, hb] at ha
            simp [hne]
        | none => simp

/-- Being one key is an equivalence. -/
theorem sameKey_equivalence : Equivalence fun a b : Scalar => a.sameKey b = true where
  refl a := by
    rw [sameKey_iff]
    cases ha : a.number? with
    | some n => exact Or.inl ⟨n, rfl, rfl⟩
    | none => exact Or.inr (Or.inr ⟨rfl, rfl⟩)
  symm h := by
    rw [sameKey_iff] at h ⊢
    rcases h with ⟨n, ha, hb⟩ | ⟨s, t, rfl, rfl, h⟩ | ⟨ha, rfl⟩
    · exact Or.inl ⟨n, hb, ha⟩
    · exact Or.inr (Or.inl ⟨t, s, rfl, rfl, Calendar.DateTime.isSame_symm h⟩)
    · exact Or.inr (Or.inr ⟨ha, rfl⟩)
  trans h h' := by
    rw [sameKey_iff] at h h' ⊢
    rcases h with ⟨n, ha, hb⟩ | ⟨s, t, rfl, rfl, h⟩ | ⟨ha, rfl⟩
    · rcases h' with ⟨n', hb', hc⟩ | ⟨s, t, rfl, rfl, -⟩ | ⟨hb', rfl⟩
      · rw [hb] at hb'
        rw [← hb'] at hc
        exact Or.inl ⟨n, ha, hc⟩
      · cases hb
      · rw [hb] at hb'
        cases hb'
    · rcases h' with ⟨n', hb', -⟩ | ⟨s', t', heq, rfl, h'⟩ | ⟨-, rfl⟩
      · cases hb'
      · cases heq
        exact Or.inr (Or.inl ⟨s, t', rfl, rfl, Calendar.DateTime.isSame_trans h h'⟩)
      · exact Or.inr (Or.inl ⟨s, t, rfl, rfl, h⟩)
    · exact h'

/-- A text is no other key than itself. -/
theorem sameKey_text_iff {k : Scalar} {s : String} :
    k.sameKey (.text s) = true ↔ k = .text s := by
  rw [sameKey_iff]
  constructor
  · rintro (⟨n, -, hn⟩ | ⟨_, _, -, htext, -⟩ | ⟨-, heq⟩)
    · cases hn
    · cases htext
    · exact heq
  · rintro rfl
    exact Or.inr (Or.inr ⟨rfl, rfl⟩)

/-- Keys that are one key meet the same keys. -/
theorem sameKey_congr {a b c : Scalar} (h : a.sameKey b = true) : a.sameKey c = b.sameKey c := by
  rw [Bool.eq_iff_iff]
  exact ⟨fun hac => sameKey_equivalence.trans (sameKey_equivalence.symm h) hac,
    fun hbc => sameKey_equivalence.trans h hbc⟩

/-- Whether two scalars are one key can be asked either way. -/
theorem sameKey_comm (a b : Scalar) : a.sameKey b = b.sameKey a := by
  rw [Bool.eq_iff_iff]
  exact ⟨fun h => sameKey_equivalence.symm h, fun h => sameKey_equivalence.symm h⟩

end Scalar

namespace Entries

variable {key k : Scalar} {v w : Value} {es base : Entries}

-- ====================================================== finding

/-- The entries have the key. -/
def Has (es : Entries) (key : Scalar) : Prop := ∃ e ∈ es, e.1.sameKey key = true

/-- Something is found under a key that entries have. -/
theorem exists_find?_of_has (h : es.Has key) : ∃ v, find? key es = some v := by
  obtain ⟨e, he, hkey⟩ := h
  induction es with
  | nil => cases he
  | cons first rest ih =>
      rw [find?]
      split
      · exact ⟨_, rfl⟩
      · next hother =>
        rcases List.mem_cons.mp he with rfl | hrest
        · exact absurd hkey hother
        · exact ih hrest

/-- Setting an entry changes what is found under its key only. -/
theorem find?_insert (key k : Scalar) (v : Value) (es : Entries) :
    find? key (insert k v es) = if k.sameKey key then some v else find? key es := by
  induction es with
  | nil => rfl
  | cons e rest ih =>
      obtain ⟨j, w⟩ := e
      rw [insert]
      by_cases hjk : j.sameKey k = true
      · rw [if_pos hjk, find?, find?, Scalar.sameKey_congr hjk]
        split <;> rfl
      · rw [if_neg hjk, find?, find?, ih]
        by_cases hjkey : j.sameKey key = true
        · have hkkey : ¬k.sameKey key = true := fun hkkey => hjk (Scalar.sameKey_equivalence.trans
            hjkey (Scalar.sameKey_equivalence.symm hkkey))
          rw [if_pos hjkey, if_neg hkkey, if_pos hjkey]
        · rw [if_neg hjkey, if_neg hjkey]

/-- The same for a mapping and names. -/
theorem get?_map_insert (name other : String) (v : Value) (es : Entries) :
    (Value.map (insert (.text other) v es)).get? name
      = if other = name then some v else (Value.map es).get? name := by
  unfold Value.get?
  dsimp only
  simp only [find?_insert, Scalar.sameKey_text_iff, Scalar.text.injEq]

-- ====================================================== setting

/-- Setting an entry adds its key and no other. -/
theorem has_insert_iff : (insert k v es).Has key ↔ k.sameKey key = true ∨ es.Has key := by
  induction es with
  | nil => simp [Has, insert]
  | cons e rest ih =>
      obtain ⟨j, w⟩ := e
      have hcons : ∀ (u : Value) (more : Entries),
          Has ((j, u) :: more) key ↔ j.sameKey key = true ∨ more.Has key := by
        intro u more
        simp [Has]
      rw [insert]
      by_cases hjk : j.sameKey k = true
      · rw [if_pos hjk, hcons, hcons, Scalar.sameKey_congr hjk, ← or_assoc, or_self]
      · rw [if_neg hjk, hcons, hcons, ih, or_left_comm]

theorem insertAll_nil (base : Entries) : insertAll base [] = base := rfl

theorem insertAll_cons (base : Entries) (e : Scalar × Value) (more : Entries) :
    insertAll base (e :: more) = insertAll (insert e.1 e.2 base) more := rfl

/-- Setting several entries adds their keys. -/
theorem has_insertAll_iff {more : Entries} :
    (insertAll base more).Has key ↔ base.Has key ∨ more.Has key := by
  induction more generalizing base with
  | nil => simp [insertAll_nil, Has]
  | cons e rest ih =>
      rw [insertAll_cons, ih, has_insert_iff, or_comm (a := e.1.sameKey key = true), or_assoc]
      simp [Has]

-- ====================================================== setting twice

/-- Of two values set under one key the later one counts. -/
theorem insert_insert_of_sameKey {j : Scalar} (h : j.sameKey k = true) (v w : Value)
    (es : Entries) : insert k v (insert j w es) = insert j v es := by
  induction es with
  | nil => simp [insert, h]
  | cons e rest ih =>
      obtain ⟨i, u⟩ := e
      have hsame : i.sameKey j = i.sameKey k := by
        rw [Scalar.sameKey_comm i j, Scalar.sameKey_congr h, Scalar.sameKey_comm k i]
      rw [insert, insert]
      by_cases hij : i.sameKey j = true
      · rw [if_pos hij, if_pos hij, insert, ← hsame, if_pos hij]
      · rw [if_neg hij, if_neg hij, insert, ← hsame, if_neg hij, ih]

/-- A key that is there already can be set before another one or after it. -/
theorem insert_comm_of_has {j : Scalar} (hne : ¬j.sameKey k = true) (hhas : es.Has k)
    (v w : Value) : insert k v (insert j w es) = insert j w (insert k v es) := by
  induction es with
  | nil => simp [Has] at hhas
  | cons e rest ih =>
      obtain ⟨i, u⟩ := e
      by_cases hij : i.sameKey j = true
      · have hik : ¬i.sameKey k = true := by rwa [Scalar.sameKey_congr hij]
        simp [insert, hij, hik]
      · by_cases hik : i.sameKey k = true
        · simp [insert, hij, hik]
        · have hrest : Has rest k := by simpa [Has, hik] using hhas
          simp [insert, hij, hik, ih hrest]

/-- The entries of a mapping: no two have one key. -/
def IsMapping (es : Entries) : Prop := es.Pairwise fun e f => e.1.sameKey f.1 = false

theorem isMapping_nil : IsMapping [] := List.Pairwise.nil

/-- Setting an entry leaves a mapping. -/
theorem IsMapping.insert (h : es.IsMapping) (k : Scalar) (v : Value) :
    (Entries.insert k v es).IsMapping := by
  induction es with
  | nil => simp [IsMapping, Entries.insert]
  | cons e rest ih =>
      obtain ⟨j, w⟩ := e
      obtain ⟨hj, hrest⟩ := List.pairwise_cons.mp h
      rw [Entries.insert]
      by_cases hjk : j.sameKey k = true
      · rw [if_pos hjk]
        exact List.pairwise_cons.mpr ⟨hj, hrest⟩
      · rw [if_neg hjk]
        refine List.pairwise_cons.mpr ⟨fun f hf => ?_, ih hrest⟩
        refine Bool.eq_false_iff.mpr fun hsame => ?_
        have hhas : (Entries.insert k v rest).Has j :=
          ⟨f, hf, Scalar.sameKey_equivalence.symm hsame⟩
        rcases has_insert_iff.mp hhas with hkj | ⟨g, hg, hgj⟩
        · exact hjk (Scalar.sameKey_equivalence.symm hkj)
        · have := hj g hg
          rw [Scalar.sameKey_comm, hgj] at this
          cases this

/-- So does setting several. -/
theorem IsMapping.insertAll {base : Entries} (h : base.IsMapping) (more : Entries) :
    (Entries.insertAll base more).IsMapping := by
  induction more generalizing base with
  | nil => exact h
  | cons e rest ih => exact ih (h.insert e.1 e.2)

/-- A key that is there already can be set before other keys or after them. -/
theorem insertAll_insert_of_has {more : Entries} (hmore : ¬more.Has k) (hhas : base.Has k)
    (v : Value) : insertAll (insert k v base) more = insert k v (insertAll base more) := by
  induction more generalizing base with
  | nil => rfl
  | cons e rest ih =>
      obtain ⟨j, w⟩ := e
      have hne : ¬j.sameKey k = true := fun h => hmore ⟨(j, w), List.mem_cons_self, h⟩
      have hrest : ¬Has rest k := fun ⟨f, hf, h⟩ => hmore ⟨f, List.mem_cons_of_mem _ hf, h⟩
      rw [insertAll_cons, insertAll_cons, ← insert_comm_of_has hne hhas]
      exact ih hrest (has_insert_iff.mpr (Or.inr hhas))

/-- An entry can be set in a mapping or after it. -/
theorem insertAll_insert (h : es.IsMapping) (base : Entries) (k : Scalar) (v : Value) :
    insertAll base (insert k v es) = insert k v (insertAll base es) := by
  induction es generalizing base with
  | nil => rfl
  | cons e rest ih =>
      obtain ⟨j, w⟩ := e
      obtain ⟨hj, hrest⟩ := List.pairwise_cons.mp h
      rw [insert, insertAll_cons]
      by_cases hjk : j.sameKey k = true
      · -- the entry takes the place of this one, and no other one has its key
        have hfree : ¬Has rest k := by
          rintro ⟨f, hf, hfk⟩
          have hjf := hj f hf
          rw [Scalar.sameKey_congr hjk, Scalar.sameKey_comm, hfk] at hjf
          cases hjf
        have hhas : (insert j w base).Has k := has_insert_iff.mpr (Or.inl hjk)
        rw [if_pos hjk, insertAll_cons, ← insert_insert_of_sameKey hjk v w base,
          insertAll_insert_of_has hfree hhas]
      · rw [if_neg hjk, insertAll_cons, ih hrest]

/-- Entries can be set in a mapping first or after it. -/
theorem insertAll_insertAll (h : es.IsMapping) (base more : Entries) :
    insertAll base (insertAll es more) = insertAll (insertAll base es) more := by
  induction more generalizing es with
  | nil => rfl
  | cons e rest ih =>
      rw [insertAll_cons, ih (h.insert e.1 e.2), insertAll_insert h, insertAll_cons]

-- ====================================================== the last one counts

theorem find?_append (key : Scalar) (es more : Entries) :
    find? key (es ++ more) = (find? key es).or (find? key more) := by
  induction es with
  | nil => rfl
  | cons e rest ih =>
      rw [List.cons_append, find?, find?, ih]
      split <;> rfl

/-- In lists put together, what is found is found in the first list that has it. -/
theorem find?_flatMap {α : Type} (key : Scalar) (f : α → Entries) (xs : List α) :
    find? key (xs.flatMap f) = xs.findSome? fun x => find? key (f x) := by
  induction xs with
  | nil => rfl
  | cons x rest ih =>
      rw [List.flatMap_cons, find?_append, ih, List.findSome?_cons]
      cases find? key (f x) <;> rfl

/-- Striking out a key leaves what is found under others. -/
theorem find?_erase (key k : Scalar) (es : Entries) :
    find? key (es.erase k) = if k.sameKey key then none else find? key es := by
  induction es with
  | nil => simp [erase, find?]
  | cons e rest ih =>
      obtain ⟨j, w⟩ := e
      unfold erase at ih ⊢
      by_cases hjk : j.sameKey k = true
      · rw [List.filter_cons_of_neg (by simpa using hjk), ih, find?, Scalar.sameKey_congr hjk]
        split <;> rfl
      · rw [List.filter_cons_of_pos (by simpa using hjk), find?, find?, ih]
        by_cases hjkey : j.sameKey key = true
        · have hkkey : ¬k.sameKey key = true := fun hkkey => hjk (Scalar.sameKey_equivalence.trans
            hjkey (Scalar.sameKey_equivalence.symm hkkey))
          rw [if_pos hjkey, if_neg hkkey, if_pos hjkey]
        · rw [if_neg hjkey, if_neg hjkey]

/-- The value of the last entry with this key. -/
def last? (key : Scalar) (es : Entries) : Option Value := find? key es.reverse

/-- What is found after entries were set is the last one with the key, or what was there. -/
theorem find?_insertAll (key : Scalar) (base more : Entries) :
    find? key (insertAll base more) = (more.last? key).or (find? key base) := by
  induction more generalizing base with
  | nil => rfl
  | cons e rest ih =>
      obtain ⟨k, v⟩ := e
      unfold last? at ih ⊢
      rw [insertAll_cons, ih, List.reverse_cons, find?_append, Option.or_assoc, find?_insert]
      refine congrArg _ ?_
      rw [find?]
      split <;> rfl

/-- Keys of entries stay where they are, and a new one goes to the end. -/
theorem map_fst_insert (k : Scalar) (v : Value) (es : Entries) :
    (insert k v es).map (·.1)
      = if es.any (·.1.sameKey k) then es.map (·.1) else es.map (·.1) ++ [k] := by
  induction es with
  | nil => rfl
  | cons e rest ih =>
      obtain ⟨j, w⟩ := e
      rw [insert]
      by_cases hjk : j.sameKey k = true
      · simp [hjk]
      · rw [if_neg hjk, List.map_cons, ih]
        by_cases hany : rest.any (·.1.sameKey k) = true <;> simp [hjk, hany]

/-- Entries that are set one after the other leave the keys in the order of their first
appearance. -/
theorem map_fst_insertAll (base more : Entries) :
    (insertAll base more).map (·.1)
      = base.map (·.1)
        ++ ((more.map (·.1)).filter fun k => !base.any (·.1.sameKey k)).eraseDupsBy
            Scalar.sameKey := by
  induction more generalizing base with
  | nil => simp [insertAll_nil]
  | cons e rest ih =>
      obtain ⟨k, v⟩ := e
      rw [insertAll_cons, ih, map_fst_insert, List.map_cons]
      have hany : ∀ j, (insert k v base).any (·.1.sameKey j)
          = (k.sameKey j || base.any (·.1.sameKey j)) := by
        intro j
        have hinsert : (insert k v base).Has j ↔ k.sameKey j = true ∨ base.Has j := has_insert_iff
        rw [Bool.eq_iff_iff, Bool.or_eq_true]
        simpa [Has] using hinsert
      simp only [hany]
      by_cases hbase : base.any (·.1.sameKey k) = true
      · -- the key is there already, so none that is the same is new
        have hsame : ∀ j, (k.sameKey j || base.any (·.1.sameKey j)) = base.any (·.1.sameKey j) := by
          intro j
          by_cases hkj : k.sameKey j = true
          · have hcongr : ∀ i : Scalar, i.sameKey j = i.sameKey k := fun i => by
              rw [Scalar.sameKey_comm i j, ← Scalar.sameKey_congr hkj, Scalar.sameKey_comm k i]
            simp only [hcongr]
            rw [hbase, Bool.or_true]
          · rw [Bool.eq_false_iff.mpr hkj, Bool.false_or]
        simp only [hsame]
        rw [if_pos hbase, List.filter_cons_of_neg (by simp [hbase])]
      · rw [if_neg hbase, List.filter_cons_of_pos (by simpa using hbase), List.eraseDupsBy_cons,
          List.filter_filter, List.append_assoc, List.singleton_append]
        refine congrArg (fun ks => _ ++ k :: List.eraseDupsBy _ ks) (List.filter_congr fun j _ => ?_)
        rw [Scalar.sameKey_comm k j, Bool.not_or, Bool.decide_eq_false]

-- ====================================================== mappings and their keys

theorem has_of_mem {e : Scalar × Value} (h : e ∈ es) : es.Has e.1 :=
  ⟨e, h, Scalar.sameKey_equivalence.refl e.1⟩

theorem find?_eq_none_iff : find? key es = none ↔ ¬es.Has key := by
  constructor
  · intro hnone hhas
    obtain ⟨v, hv⟩ := exists_find?_of_has hhas
    rw [hnone] at hv
    cases hv
  · intro hfree
    induction es with
    | nil => rfl
    | cons e rest ih =>
        rw [find?, if_neg fun hsame => hfree ⟨e, List.mem_cons_self, hsame⟩]
        exact ih fun ⟨f, hf, hsame⟩ => hfree ⟨f, List.mem_cons_of_mem _ hf, hsame⟩

theorem last?_eq_none_iff : es.last? key = none ↔ ¬es.Has key := by
  unfold last?
  rw [find?_eq_none_iff]
  simp [Has]

/-- An entry with a new key goes to the end. -/
theorem insert_of_not_has (h : ¬es.Has k) (v : Value) : insert k v es = es ++ [(k, v)] := by
  induction es with
  | nil => rfl
  | cons e rest ih =>
      rw [insert, if_neg fun hsame => h ⟨e, List.mem_cons_self, hsame⟩,
        ih fun ⟨f, hf, hsame⟩ => h ⟨f, List.mem_cons_of_mem _ hf, hsame⟩, List.cons_append]

/-- Entries with new keys that are all different go to the end. -/
theorem insertAll_eq_append {more : Entries} (h : IsMapping (base ++ more)) :
    insertAll base more = base ++ more := by
  induction more generalizing base with
  | nil => rw [insertAll_nil, List.append_nil]
  | cons e rest ih =>
      have hfree : ¬base.Has e.1 := by
        rintro ⟨f, hf, hsame⟩
        have hne := (List.pairwise_append.mp h).2.2 f hf e List.mem_cons_self
        rw [hsame] at hne
        cases hne
      have hsplit : base ++ e :: rest = base ++ [e] ++ rest := by simp
      rw [hsplit] at h ⊢
      rw [insertAll_cons, insert_of_not_has hfree, ih h]

/-- A mapping is read from its entries as it is. -/
theorem ofList_eq_self (h : es.IsMapping) : ofList es = es := insertAll_eq_append h

/-- In a mapping the first entry with a key is the last one. -/
theorem IsMapping.last?_eq_find? (h : es.IsMapping) (key : Scalar) :
    es.last? key = es.find? key := by
  calc es.last? key = (es.last? key).or (find? key []) := Option.or_none.symm
    _ = find? key (ofList es) := (find?_insertAll key [] es).symm
    _ = find? key es := by rw [ofList_eq_self h]

/-- Of entries set in a mapping the last one with a key is set last or was there. -/
theorem last?_insertAll (h : es.IsMapping) (more : Entries) :
    (insertAll es more).last? key = (more.last? key).or (es.last? key) := by
  rw [(h.insertAll more).last?_eq_find?, find?_insertAll, h.last?_eq_find?]

/-- Whether entries are a mapping depends on their keys. -/
theorem isMapping_iff_pairwise_map_fst :
    es.IsMapping ↔ (es.map (·.1)).Pairwise fun k j => k.sameKey j = false := by
  rw [List.pairwise_map]
  rfl

/-- Every key is a text of this kind. -/
def Keyed (p : String → Prop) (es : Entries) : Prop := ∀ k ∈ es.map (·.1), ∃ s, p s ∧ k = .text s

variable {p : String → Prop}

theorem keyed_iff_has : es.Keyed p ↔ ∀ key, es.Has key → ∃ s, p s ∧ key = .text s := by
  constructor
  · rintro hkeys key ⟨e, he, hsame⟩
    obtain ⟨s, hs, hk⟩ := hkeys e.1 (List.mem_map_of_mem he)
    refine ⟨s, hs, Scalar.sameKey_text_iff.mp ?_⟩
    rw [← hk]
    exact Scalar.sameKey_equivalence.symm hsame
  · intro hhas k hk
    obtain ⟨e, he, rfl⟩ := List.mem_map.mp hk
    exact hhas e.1 (has_of_mem he)

/-- After entries were set the keys are of this kind exactly if they were and those set are. -/
theorem keyed_insertAll_iff {more : Entries} :
    (insertAll base more).Keyed p ↔ base.Keyed p ∧ more.Keyed p := by
  simp only [keyed_iff_has, has_insertAll_iff, or_imp, forall_and]

end Entries

end ApiCommands
