import SqlTyping.Proofs.Declared.Gist
import SqlTyping.Proofs.Resolved.Unplaced
import SqlTyping.Resolution.FromCatalog
import SqlTyping.Resolution.Inquiry

/-!
# Outcomes that are alike

Two ways of looking up a type may come to the same without coming to the
same thing: a rejection has a place, and it quotes a keyword as it was
written. Outcomes are **alike** when both are answers that are the same, or
both are failures that are: the notion of sameness is a parameter for each.

Inquiries that are alike part by part are alike as a whole
(`Inquiry.Alike.bind`). Their requests are not compared.
-/

namespace SqlTyping

/-- **Alike outcomes**: answers related by `R`, or failures related by
`E`. -/
def Alike {ε α : Type} (E : ε → ε → Prop) (R : α → α → Prop) :
    Except ε α → Except ε α → Prop
  | .ok a, .ok b => R a b
  | .error e, .error f => E e f
  | .ok _, .error _ => False
  | .error _, .ok _ => False

namespace Alike

variable {ε α β : Type} {E : ε → ε → Prop} {R : α → α → Prop} {S : β → β → Prop}

/-- **Going on alike**: after alike outcomes, alike ways on come to alike
outcomes. -/
theorem bind {x y : Except ε α} {f g : α → Except ε β} (h : Alike E R x y)
    (hf : ∀ a b, R a b → Alike E S (f a) (g b)) : Alike E S (x >>= f) (y >>= g) := by
  cases x with
  | ok a =>
    cases y with
    | ok b => exact hf a b h
    | error f => exact h.elim
  | error e =>
    cases y with
    | ok b => exact h.elim
    | error f => exact h

/-- **Two outcomes that are alike to a third are alike.** -/
theorem join {x y z : Except ε α} (hE : ∀ e f g, E e g → E f g → E e f)
    (hR : ∀ a b c, R a c → R b c → R a b) (hx : Alike E R x z) (hy : Alike E R y z) :
    Alike E R x y := by
  -- the third outcome says for both others whether they are answers
  cases z with
  | ok c =>
    cases x with
    | error e => exact hx.elim
    | ok a =>
      cases y with
      | error f => exact hy.elim
      | ok b => exact hR a b c hx hy
  | error g =>
    cases x with
    | ok a => exact hx.elim
    | error e =>
      cases y with
      | ok b => exact hy.elim
      | error f => exact hE e f g hx hy

end Alike

/-! ## Failures -/

/-- **The cause with a keyword in capitals.** -/
def Cause.folded : Cause → Cause
  | unknownDatatype k => unknownDatatype (asKeyword k)
  | unknownType n => unknownType n

/-- **The misuse with a keyword in capitals.** -/
def Misuse.folded : Misuse → Misuse
  | unknownCollection k => unknownCollection (asKeyword k)
  | m => m

/-- **The failure with a keyword in capitals**, wherever it is. -/
def Failure.folded : Failure → Failure
  | rejected r => rejected ⟨.unknown, r.cause.folded⟩
  | misused m => misused m.folded

/-- **Alike misuses**: equal up to the case of a keyword. -/
def Misuse.Alike (m n : Misuse) : Prop := m.folded = n.folded

/-- **Alike failures**: of one kind and for one name, up to the case of a
keyword and wherever they are. -/
def Failure.Alike (e f : Failure) : Prop := e.folded = f.folded

/-- **The shortfall with a keyword in capitals.** -/
def Shortfall.folded : Shortfall → Shortfall
  | notOffered => notOffered
  | unknownKeyword k => unknownKeyword (asKeyword k)

/-- **Alike shortfalls**: equal up to the case of a keyword. -/
def Shortfall.Alike (e f : Shortfall) : Prop := e.folded = f.folded

/-! ## Inquiries -/

/-- **Inquiries with alike outcomes.** -/
def Inquiry.Alike {α : Type} (R : α → α → Prop) (x y : Inquiry α) : Prop :=
  SqlTyping.Alike Failure.Alike R x.result y.result

namespace Inquiry.Alike

variable {α β : Type} {R : α → α → Prop} {S : β → β → Prop}

theorem pure {a b : α} (h : R a b) : Inquiry.Alike R (Pure.pure a) (Pure.pure b) := h

/-- Turning types down for the same cause is alike wherever they stand. -/
theorem reject (p q : Span) {c d : Cause} (h : c.folded = d.folded) :
    Inquiry.Alike R (Inquiry.reject p c) (Inquiry.reject q d) := by
  show Failure.folded _ = Failure.folded _
  rw [Failure.folded, Failure.folded, h]

/-- **Inquiring on alike**: after alike inquiries, alike ways on are
alike. -/
theorem bind {x y : Inquiry α} {f g : α → Inquiry β} (h : Inquiry.Alike R x y)
    (hf : ∀ a b, R a b → Inquiry.Alike S (f a) (g b)) :
    Inquiry.Alike S (x >>= f) (y >>= g) := by
  unfold Inquiry.Alike
  rw [result_bind, result_bind]
  exact SqlTyping.Alike.bind h hf

end Inquiry.Alike

end SqlTyping
