/-
The two readers of a reference to a schema.

# One takes the whole, the other piece by piece

A reference to a schema is typed by the name in it, which is all that stands
behind the start of such references (`Catalog.target?`). It is followed segment
by segment (`Api.resolve`). Where nothing behind the start has a slash, there is
one segment and it is the name, so both come to the same schema
(`resolve_of_slash_not_mem`).

# A slash that is not escaped

With a slash there are several segments. Unescaping does not go over it
(`Pointer.unescape_append_slash`), so the first of them is only a beginning of
the name. The reference is followed into the schema of this shorter name, and
leads nowhere if there is none (`resolve_of_slash`). So it leads to the schema
that it names only where a copy of it stands inside the other one.
-/
import ApiCommands.Artifact.Model.Catalog
import ApiCommands.Naming.Tables.Standard
import ApiCommands.Proofs.Schema.WrittenPath

namespace ApiCommands

namespace Api

variable {a : Api} {ref name : String} {written front back : List Char} {schema : Value}

-- ====================================================== segments of a reference to a schema

theorem segments_schemas (written : List Char) :
    Pointer.segments ("components/schemas/".toList ++ written)
      = "components".toList :: "schemas".toList :: Pointer.segments written := by
  have hstart : "components/schemas/".toList ++ written
      = "components".toList ++ '/' :: ("schemas".toList ++ '/' :: written) := rfl
  rw [hstart, Pointer.segments_append_slash (by decide), Pointer.segments_append_slash (by decide),
    Pointer.unescape_eq_self (by decide), Pointer.unescape_eq_self (by decide)]

/-- A pointer to schemas is followed among them. -/
theorem follow_schemas (h : a.schemas ≠ []) (segments : List (List Char)) :
    Pointer.follow ("components".toList :: "schemas".toList :: segments) a.document
      = Pointer.follow segments (.map a.schemas) := by
  have hstep : ∀ {name : String} {node part : Value}, node.get? name = some part →
      Pointer.step name.toList node = .ok (some part) := by
    intro name node part hget
    cases node with
    | map entries => exact (Pointer.step_toList_map name entries).trans (congrArg Except.ok hget)
    | scalar s => cases hget
    | list items => cases hget
  unfold schemas at h ⊢
  split at h
  · next components hcomponents =>
    split at h
    · next entries hentries =>
      rw [Pointer.follow_cons_of_some (hstep hcomponents),
        Pointer.follow_cons_of_some (hstep hentries)]
    · exact absurd rfl h
  · exact absurd rfl h

/-- A reference to a schema is followed from the schemas on. -/
theorem resolve_schema_eq (hschemas : a.schemas ≠ [])
    (href : ref.toList = schemaRefStart.toList ++ written) :
    a.resolve ref
      = ofPointer ref (Pointer.follow (Pointer.segments written) (.map a.schemas)) := by
  have hinternal : ref.toList = '#' :: '/' :: ("components/schemas/".toList ++ written) := href
  rw [resolve_internal hinternal, segments_schemas, follow_schemas hschemas]

theorem schemas_ne_nil (h : a.schemas.find? (.text name) = some schema) : a.schemas ≠ [] := by
  intro hnil
  rw [hnil] at h
  cases h

-- ====================================================== without a slash, and with one

/-- Without a slash the reference leads to the schema of its name. -/
theorem resolve_of_slash_not_mem (href : ref.toList = schemaRefStart.toList ++ written)
    (hname : Pointer.unescape written = name.toList) (hslash : '/' ∉ written)
    (hschema : a.schemas.find? (.text name) = some schema) :
    a.resolve ref = pure (some schema) := by
  have hstep : Pointer.step name.toList (.map a.schemas) = .ok (some schema) :=
    (Pointer.step_toList_map name a.schemas).trans (congrArg Except.ok hschema)
  rw [resolve_schema_eq (schemas_ne_nil hschema) href, Pointer.segments_of_slash_not_mem hslash,
    hname, Pointer.follow_cons_of_some hstep]
  rfl

/-- With a slash it leads into the schema of what stands in front of the slash. -/
theorem resolve_of_slash (hschemas : a.schemas ≠ [])
    (href : ref.toList = schemaRefStart.toList ++ (front ++ '/' :: back)) (hfront : '/' ∉ front) :
    a.resolve ref
      = ofPointer ref
          (match a.schemas.find? (.text (String.ofList (Pointer.unescape front))) with
          | some other => Pointer.follow (Pointer.segments back) other
          | none => .ok none) := by
  rw [resolve_schema_eq hschemas href, Pointer.segments_append_slash hfront]
  refine congrArg _ ?_
  cases hother : a.schemas.find? (.text (String.ofList (Pointer.unescape front))) with
  | none => exact Pointer.follow_cons_of_none (congrArg Except.ok hother)
  | some other => exact Pointer.follow_cons_of_some (congrArg Except.ok hother)

/-- So it leads to a node exactly if this stands there, inside the other schema. -/
theorem resolve_of_slash_eq_pure_iff (hschemas : a.schemas ≠ [])
    (href : ref.toList = schemaRefStart.toList ++ (front ++ '/' :: back)) (hfront : '/' ∉ front) :
    a.resolve ref = pure (some schema)
      ↔ ∃ other, a.schemas.find? (.text (String.ofList (Pointer.unescape front))) = some other
        ∧ Pointer.follow (Pointer.segments back) other = .ok (some schema) := by
  rw [resolve_of_slash hschemas href hfront, ofPointer_eq_pure_iff]
  cases a.schemas.find? (.text (String.ofList (Pointer.unescape front))) with
  | none => simp
  | some other => simp

/-- What stands in front of the slash is another name. -/
theorem ofList_unescape_ne (hname : Pointer.unescape (front ++ '/' :: back) = name.toList) :
    String.ofList (Pointer.unescape front) ≠ name := by
  rintro rfl
  rw [Pointer.unescape_append_slash, String.toList_ofList] at hname
  exact List.cons_ne_nil _ _ (List.append_right_eq_self.mp hname)

/-- A document of one schema. -/
def ofSchema (name : String) (schema : Value) : Api :=
  ofDocument (.map [(.text "components", .map [(.text "schemas", .map [(.text name, schema)])])])

theorem find?_schemas_ofSchema (name other : String) (schema : Value) :
    (ofSchema name schema).schemas.find? (.text other)
      = if name = other then some schema else none := by
  show Entries.find? (.text other) [(.text name, schema)] = _
  rw [Entries.find?, Entries.find?]
  simp only [Scalar.sameKey_text_iff, Scalar.text.injEq]

/-- Where a name holds a slash that is not escaped, the reference does not lead to it in the
document that has this schema only. -/
theorem resolve_ofSchema_ne (href : ref.toList = schemaRefStart.toList ++ written)
    (hname : Pointer.unescape written = name.toList) (hslash : '/' ∈ written) (schema : Value) :
    (ofSchema name schema).resolve ref ≠ pure (some schema) := by
  obtain ⟨front, back, rfl, hfront⟩ := List.eq_append_cons_of_mem hslash
  have hfind := find?_schemas_ofSchema name name schema
  rw [if_pos rfl] at hfind
  rw [Ne, resolve_of_slash_eq_pure_iff (schemas_ne_nil hfind) href hfront]
  rintro ⟨other, hother, -⟩
  rw [find?_schemas_ofSchema, if_neg (ofList_unescape_ne hname).symm] at hother
  cases hother

end Api

-- ====================================================== what a reference is typed by

namespace Catalog

variable {attributes : List String} {t : Tables} {a : Api} {c : Catalog}
  {ref name className : String} {schema : Value}

/-- The names of classes stand beside the keys of the schemas. -/
theorem exists_of_ofApi (h : ofApi attributes t a = .ok c) :
    c.api = a ∧ ∃ names, c.classNames = (a.schemas.map (·.1)).zip names := by
  obtain ⟨bases, -, hcatalog⟩ := Except.bind_eq_ok_iff.mp h
  obtain rfl := Except.ok.inj hcatalog
  exact ⟨rfl, _, rfl⟩

/-- A reference is typed by the schema of its name. -/
theorem find?_of_target? (hc : ofApi attributes t a = .ok c) (hname : Api.refName? ref = some name)
    (h : c.target? ref = some (className, schema)) :
    a.schemas.find? (.text name) = some schema := by
  obtain ⟨rfl, names, hnames⟩ := exists_of_ofApi hc
  obtain ⟨name', hname', hclass⟩ := Option.bind_eq_some_iff.mp h
  obtain rfl := Option.some.inj (hname.symm.trans hname')
  obtain ⟨⟨key, className'⟩, hfound, hpair⟩ := Option.bind_eq_some_iff.mp hclass
  have hschema : (c.api.schemas.find? (.text name)).getD .null = schema :=
    congrArg Prod.snd (Option.some.inj hpair)
  have hsame := List.find?_some hfound
  have hkey : key = .text name := Scalar.sameKey_text_iff.mp hsame
  have hmem : key ∈ c.api.schemas.map (·.1) := by
    have hpaired := List.mem_of_find?_eq_some hfound
    rw [hnames] at hpaired
    exact (List.of_mem_zip hpaired).1
  obtain ⟨e, he, hfst⟩ := List.mem_map.mp hmem
  have hhas : c.api.schemas.Has (.text name) :=
    ⟨e, he, Scalar.sameKey_text_iff.mpr (hfst.trans hkey)⟩
  obtain ⟨v, hv⟩ := Entries.exists_find?_of_has hhas
  rw [hv] at hschema ⊢
  exact congrArg some hschema

end Catalog

-- ====================================================== agreement

/-- A reference that names a schema is typed by it in every catalog. It leads to this schema in
every document that has one of the name, exactly if the name is written without a slash. With a
slash it does so only where the same stands inside the schema of another name, the one in front of
the slash. -/
theorem Api.reference_readers_agree_iff {ref name : String} (h : refName? ref = some name) :
    (∀ attributes t (a : Api) c className schema, Catalog.ofApi attributes t a = .ok c →
        c.target? ref = some (className, schema) → a.schemas.find? (.text name) = some schema)
      ∧ ∃ written, ref.toList = schemaRefStart.toList ++ written
        ∧ ((∀ (a : Api) schema, a.schemas.find? (.text name) = some schema →
              a.resolve ref = pure (some schema))
            ↔ '/' ∉ written)
        ∧ ∀ (a : Api) schema front back, a.schemas.find? (.text name) = some schema →
            written = front ++ '/' :: back → '/' ∉ front →
            String.ofList (Pointer.unescape front) ≠ name
              ∧ (a.resolve ref = pure (some schema)
                ↔ ∃ other, a.schemas.find? (.text (String.ofList (Pointer.unescape front)))
                    = some other
                  ∧ Pointer.follow (Pointer.segments back) other = .ok (some schema)) := by
  refine ⟨fun attributes t a c className schema hc htarget =>
    Catalog.find?_of_target? hc h htarget, ?_⟩
  obtain ⟨written, href, hname, -⟩ := refName?_eq_some_iff.mp h
  refine ⟨written, href, ⟨?_, ?_⟩, ?_⟩
  · intro hagree hslash
    refine resolve_ofSchema_ne href hname hslash .null (hagree (ofSchema name .null) .null ?_)
    rw [find?_schemas_ofSchema, if_pos rfl]
  · intro hslash a schema hschema
    exact resolve_of_slash_not_mem href hname hslash hschema
  · rintro a schema front back hschema rfl hfront
    exact ⟨ofList_unescape_ne hname,
      resolve_of_slash_eq_pure_iff (schemas_ne_nil hschema) href hfront⟩

-- ====================================================== a name with a slash

namespace SlashedName

def text : Value := .map [(.text "type", .text "string")]

def list : Value := .map [(.text "type", .text "array")]

/-- A schema whose name has a slash, and one of the name in front of it. -/
def document : Value := .map [(.text "components", .map [(.text "schemas", .map
  [(.text "a/b", text), (.text "a", .map [(.text "b", list)])])])]

end SlashedName

/-- Either way of writing the slash names the one schema. Escaped it leads there as well; as it is
it leads into the other schema. -/
theorem Api.slashedName_read_apart :
    refName? "#/components/schemas/a~1b" = some "a/b"
      ∧ refName? "#/components/schemas/a/b" = some "a/b"
      ∧ (ofDocument SlashedName.document).resolve "#/components/schemas/a~1b"
        = pure (some SlashedName.text)
      ∧ (ofDocument SlashedName.document).resolve "#/components/schemas/a/b"
        ≠ pure (some SlashedName.text)
      ∧ (ofDocument SlashedName.document).resolve "#/components/schemas/a/b"
        = pure (some SlashedName.list) := by
  have hescaped : refName? "#/components/schemas/a~1b" = some "a/b" := by decide +kernel
  have hplain : refName? "#/components/schemas/a/b" = some "a/b" := by decide +kernel
  have hschema : (ofDocument SlashedName.document).schemas.find? (.text "a/b")
      = some SlashedName.text := by cbv
  have hlist : (ofDocument SlashedName.document).resolve "#/components/schemas/a/b"
      = pure (some SlashedName.list) := by cbv
  obtain ⟨-, written, href, hagree, -⟩ := reference_readers_agree_iff hescaped
  have hwritten : schemaRefStart.toList ++ written = schemaRefStart.toList ++ "a~1b".toList :=
    href.symm
  have hslash : '/' ∉ written := by
    rw [List.append_cancel_left hwritten]
    decide
  refine ⟨hescaped, hplain, hagree.mpr hslash _ _ hschema, ?_, hlist⟩
  rw [hlist]
  intro heq
  have hnodes := congrArg Noted.outcome heq
  simp [SlashedName.list, SlashedName.text] at hnodes

end ApiCommands
