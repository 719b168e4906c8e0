import SqlTyping.Json.Declared
import SqlTyping.Json.Resolved

/-!
# Nothing is lost in JSON

Types of either kind are exchanged as JSON values and read back on the
other side. What is read is what was written, in all of its parts: the
spans that `==` looks past, the base and the time zone of a declared type
and the size of a collection, none of which is in any text
(`Json.readsBack`).

So types with the same JSON are the same, while types that are `==` and
types with the same text need not be.
-/

namespace SqlTyping

/-- **Whatever is written is read back as it was**: descriptors, declared
types and resolved types, each with every span, facet, quote and name in
it. -/
theorem Json.readsBack :
    (∀ d : Descriptor, Descriptor.ofJson? d.toJson = some d)
    ∧ (∀ t : DeclaredType, DeclaredType.ofJson? t.toJson = some t)
    ∧ ∀ t : ResolvedType, ResolvedType.ofJson? t.toJson = some t := by
  refine ⟨fun d => ?_, fun t => ?_, fun t => ?_⟩
  · exact d.ofJson?_toJson
  · exact t.ofJson?_toJson
  · exact t.ofJson?_toJson

/-- What can be read back is written in different ways when it differs. -/
theorem Json.injective_of_reads {α : Type} {write : α → Json} {read : Json → Option α}
    (h : ∀ a, read (write a) = some a) : Function.Injective write := by
  intro a b hab
  have hread : some a = some b := by rw [← h a, hab, h b]
  exact Option.some.inj hread

/-- Declared types with the same JSON are the same, and stand at the same
places. -/
theorem DeclaredType.toJson_injective : Function.Injective DeclaredType.toJson :=
  Json.injective_of_reads DeclaredType.ofJson?_toJson

/-- Descriptors with the same JSON are the same, and stand at the same
places. -/
theorem Descriptor.toJson_injective : Function.Injective Descriptor.toJson :=
  Json.injective_of_reads Descriptor.ofJson?_toJson

/-- Resolved types with the same JSON are the same. -/
theorem ResolvedType.toJson_injective : Function.Injective ResolvedType.toJson :=
  Json.injective_of_reads ResolvedType.ofJson?_toJson

end SqlTyping
