/-
Names of operations that are not their first choice.

The candidates of an operation are its first choice, then one that says path and
method, then numbers behind that. So any but the first ends in the name of a
method, or in a method and a number (`Tables.eq_methodBase_of_has`). A name that
does not end so (`not_endsInMethod_of_no_digit`,
`not_endsInMethod_append_toString`) comes about as a first choice or not at all,
which tells who gets it.
-/
import ApiCommands.Proofs.Naming.Identifier

namespace ApiCommands

/-- A name ends in the name of a method, or has a number behind it and ends so without. -/
def EndsInMethod (name : String) : Prop :=
  ∃ m : Method, m.name.toList <:+ name.toList
    ∨ ∃ (stem : String) (n : Nat), name = stem ++ toString n ∧ m.name.toList <:+ stem.toList

namespace Method

/-- The name of a method ends in one of five letters. -/
theorem getLast?_name (m : Method) :
    m.name.toList.getLast? ∈ [some 't', some 'h', some 'e', some 'd', some 's'] := by
  cases m <;> decide

/-- What ends in the name of a method ends in its last letter. -/
theorem getLast?_of_isSuffix {m : Method} {s : List Char} (h : m.name.toList <:+ s) :
    s.getLast? = m.name.toList.getLast? := by
  obtain ⟨front, rfl⟩ := h
  have hne : m.name.toList ≠ [] := by cases m <;> decide
  rw [List.getLast?_append_of_ne_nil _ hne]

/-- What ends in the name of a method does not end in a digit. -/
theorem any_isDigit_of_isSuffix {m : Method} {s : List Char} (h : m.name.toList <:+ s) :
    s.getLast?.any Char.isDigit = false := by
  rw [getLast?_of_isSuffix h]
  cases m <;> decide

end Method

/-- A name that ends in no digit and in no method does not end in a method with a number either. -/
theorem not_endsInMethod_of_no_digit {name : String}
    (hdigit : name.toList.getLast?.any Char.isDigit = false)
    (hname : ∀ m : Method, ¬m.name.toList <:+ name.toList) : ¬EndsInMethod name := by
  intro h
  obtain ⟨m, hsuffix | ⟨stem, n, heq, -⟩⟩ := h
  · exact hname m hsuffix
  · have hend := Text.any_isDigit_append_toString stem n
    rw [← heq, hdigit] at hend
    cases hend

/-- A number behind a stem that ends in no digit and in no method does not end in a method. -/
theorem not_endsInMethod_append_toString {stem : String}
    (hdigit : stem.toList.getLast?.any Char.isDigit = false)
    (hstem : ∀ m : Method, ¬m.name.toList <:+ stem.toList) (n : Nat) :
    ¬EndsInMethod (stem ++ toString n) := by
  rintro ⟨m, hsuffix | ⟨stem', n', heq, hsuffix⟩⟩
  · have hend := Method.any_isDigit_of_isSuffix hsuffix
    rw [Text.any_isDigit_append_toString] at hend
    cases hend
  · have hstems := Text.eq_of_append_toString_eq hdigit (Method.any_isDigit_of_isSuffix hsuffix) heq
    rw [← hstems] at hsuffix
    exact hstem m hsuffix

namespace Tables

variable (t : Tables)

/-- A candidate for an operation that does not end in a method is the first choice. -/
theorem eq_methodBase_of_has {id path : String} {method : Method} {name : String}
    (h : (t.methodCandidates id path method).Has name)
    (hmethod : ¬EndsInMethod (Text.lowered name)) : name = t.methodBase id path := by
  have hstem := t.isSuffix_stem_methodCandidates id path method
  rcases h with hpreferred | ⟨i, rfl⟩
  · rcases List.mem_pair.mp hpreferred with hbase | rfl
    · exact hbase
    · exact absurd ⟨method, Or.inl hstem⟩ hmethod
  · exact absurd ⟨method, Or.inr ⟨_, i + 2, Text.lowered_append_toString _ _, hstem⟩⟩ hmethod

end Tables

end ApiCommands
