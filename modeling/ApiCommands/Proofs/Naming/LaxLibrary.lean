/-
The lax library does what is asked of a library of data models.

Each of its types is what its name says (`FieldTypes.lawful_lax`): a set and a mapping keep
one of what comes twice, and texts are read as they are. A mapping is read as tables
exactly if every field is read and no key is too much (`checkFields_eq_valid_iff`). The
fields are taken one by one in `values?_eq_some_iff` and nowhere else.
-/
import ApiCommands.Naming.Tables.Reading
import ApiCommands.Proofs.Naming.TableFields

namespace ApiCommands

open Checked

-- ====================================================== types

namespace FieldTypes

@[simp]
theorem checkDomain_name (d : Domain) : checkDomain (.text d.name) = valid d := by
  cases d <;> rfl

section Pairs

variable {κ α : Type} [DecidableEq κ] {checkKey : Scalar → Checked κ}
  {checkValue : Value → Checked α} {key : κ → String} {value : α → String}

/-- Mappings hold each key once, and are read back if their keys and their values are. -/
theorem isDict_pairsOf (hkeys : ∀ k, checkKey (.text (key k)) = valid k)
    (hvalues : ∀ a, checkValue (.text (value a)) = valid a) :
    (pairsOf checkKey checkValue key value).IsDict where
  nodup v pairs h := by
    have hdict : dict checkKey checkValue v = valid pairs := h
    obtain ⟨_, read, -, -, rfl⟩ := dict_eq_valid_iff.mp hdict
    exact nodup_oncePerKey read
  readBack pairs h := by
    refine dict_eq_valid_iff.mpr ⟨_, pairs, rfl, ?_, oncePerKey_of_nodup h⟩
    rw [List.forall₂_map_left_iff, List.forall₂_same]
    exact fun p _ => ⟨hkeys p.1, hvalues p.2⟩

end Pairs

/-- Keys that are texts stay as they are. -/
theorem isTextDict_pairsOf {α : Type} {checkValue : Value → Checked α} {value : α → String}
    (hvalues : ∀ a, checkValue (.text (value a)) = valid a) :
    (pairsOf textKey checkValue id value).IsTextDict where
  toIsDict := isDict_pairsOf (fun _ => rfl) hvalues
  isMap v pairs h := by
    have hdict : dict textKey checkValue v = valid pairs := h
    obtain ⟨es, _, rfl, -⟩ := dict_eq_valid_iff.mp hdict
    exact ⟨es, rfl⟩
  keys es pairs hmapping hkeyed h := by
    have hdict : dict textKey checkValue (.map es) = valid pairs := h
    obtain ⟨_, read, hes, hread, rfl⟩ := dict_eq_valid_iff.mp hdict
    obtain rfl := Value.map.inj hes
    have hkeys : es.map Prod.fst = read.map fun p => Scalar.text p.1 := by
      refine List.forall₂_eq_eq_eq ▸ ?_
      rw [List.forall₂_map_left_iff, List.forall₂_map_right_iff]
      refine (List.forall₂_iff_zip.mpr ⟨hread.length_eq, fun {e p} hmem => ?_⟩)
      have hkey := (List.forall₂_zip hread hmem).1
      obtain ⟨s, -, hs⟩ := hkeyed e.1 (List.mem_map_of_mem (List.of_mem_zip hmem).1)
      rw [hs] at hkey ⊢
      exact congrArg Scalar.text (valid_inj hkey)
    have hnodup : (read.map Prod.fst).Nodup := by
      rw [Entries.isMapping_iff_pairwise_map_fst, hkeys, List.pairwise_map] at hmapping
      refine List.pairwise_map.mpr (hmapping.imp fun hne heq => ?_)
      rw [heq, Scalar.sameKey_equivalence.refl] at hne
      cases hne
    rw [oncePerKey_of_nodup hnodup, hkeys]
  written pairs := ⟨_, rfl, by rw [List.map_map]; rfl⟩

/-- Every type of the lax library is what its name says. -/
theorem lawful_lax : lax.Lawful where
  text _ := rfl
  domain := checkDomain_name
  textRow_written _ := rfl
  textRow := items_text_texts .tupleType
  domainRow _ := items_texts .tupleType fun d _ => checkDomain_name d
  textSet :=
    { isList := fun v texts h => by
        obtain ⟨read, hread, -⟩ := map_eq_valid_iff.mp h
        obtain ⟨vs, rfl, -⟩ := items_eq_valid_iff.mp hread
        exact ⟨vs, rfl⟩
      nodup := fun _ _ h => nodup_of_textSet h
      written := fun _ => rfl
      reads := fun _ h => textSet_texts h }
  domainTexts := isDict_pairsOf checkDomain_name fun _ => rfl
  textTexts := isTextDict_pairsOf fun _ => rfl
  textDomains := isTextDict_pairsOf checkDomain_name

end FieldTypes

-- ====================================================== tables

namespace Tables

/-- The tables of a mapping have in each field its value. -/
theorem values?_eq_some_iff {types : FieldTypes} {es : Entries} {t : Tables} :
    values? types es = some t ↔ ∀ c ∈ columns, (c.field.read types es).value? = some (c.get t) := by
  unfold columns
  simp only [List.forall_mem_cons, List.not_mem_nil, false_implies, implies_true, and_true]
  unfold values?
  constructor
  · intro h
    iterate 22 obtain ⟨_, _, h⟩ := Option.bind_eq_some_iff.mp h
    obtain rfl := Option.some.inj h
    and_intros <;> assumption
  · rintro ⟨h0, h1, h2, h3, h4, h5, h6, h7, h8, h9, h10, h11, h12, h13, h14, h15, h16, h17, h18,
    h19, h20, h21⟩
    rw [h0, h1, h2, h3, h4, h5, h6, h7, h8, h9, h10, h11, h12, h13, h14, h15, h16, h17, h18, h19,
      h20, h21]
    rfl

/-- A mapping is read as tables if each field is read as theirs, and no key is too much. -/
theorem checkFields_eq_valid_iff {types : FieldTypes} {es : Entries} {t : Tables} :
    checkFields types es = valid t
      ↔ (∀ c ∈ columns, c.field.read types es = valid (c.get t)) ∧ es.Keyed (· ∈ fieldNames) := by
  have hextras : (noExtras es fieldNames).issues = [] ↔ es.Keyed (· ∈ fieldNames) := by
    rw [← noExtras_eq_valid_iff (u := ()), eq_valid_iff]
    exact (and_iff_left rfl).symm
  simp only [eq_valid_iff, forall_and]
  unfold checkFields
  rw [List.append_eq_nil_iff, List.flatMap_eq_nil_iff, values?_eq_some_iff, hextras]
  exact and_right_comm

theorem nodup_fieldNames : (columns.map (·.field.name)).Nodup := by decide

theorem keyed_dump (types : FieldTypes) (t : Tables) :
    (t.dump types).Keyed (· ∈ fieldNames) := by
  unfold Entries.Keyed dump
  rw [List.map_map, List.forall_mem_map]
  exact fun c hc => ⟨c.field.name, List.mem_map_of_mem hc, rfl⟩

/-- Written tables have each field under its name. -/
theorem find?_dump (types : FieldTypes) (t : Tables) {c : Column} (hc : c ∈ columns) :
    (t.dump types).find? (.text c.field.name)
      = some ((c.field.type types).written (c.get t)) := by
  have hnodup := nodup_fieldNames
  unfold dump
  generalize columns = cs at hc hnodup
  induction cs with
  | nil => cases hc
  | cons first rest ih =>
      rw [List.map_cons, List.nodup_cons] at hnodup
      rw [List.map_cons, Entries.find?]
      rcases List.mem_cons.mp hc with rfl | hrest
      · rw [if_pos (Scalar.sameKey_equivalence.refl _)]
      · have hne : first.field.name ≠ c.field.name := fun heq =>
          hnodup.1 (heq ▸ List.mem_map_of_mem hrest)
        rw [if_neg fun hsame => hne (Scalar.text.inj (Scalar.sameKey_text_iff.mp hsame))]
        exact ih hrest hnodup.2

end Tables

/-- The lax library reads tables field by field and writes every field under its name. -/
theorem ModelLibrary.lawful_lax : lax.Lawful where
  types := FieldTypes.lawful_lax
  validate_eq_ok_iff _ _ := result_eq_ok_iff.trans Tables.checkFields_eq_valid_iff
  find?_dump t _ hc := Tables.find?_dump .lax t hc
  keyed_dump := Tables.keyed_dump .lax

end ApiCommands
