import SqlTyping.Catalog
import SqlTyping.Resolution.Rejection

/-!
# Asking a scope

Names of user-defined types mean something in a **scope** only: it has a
catalog of built-in types, and knows what type a name is bound to.

How a scope finds a name may be costly or have effects, so it matters
which names it is asked for, and when. An **inquiry** is a computation
that asks a scope things; its value holds the requests it makes, in order,
and what comes of it. Requests made before a failure are kept, and none
are made after it.

Inquiries form a monad (`LawfulMonad`), in which `bind` puts the requests
of its two parts one after the other.
-/

namespace SqlTyping

/-- **What names mean.** -/
structure Scope where
  /-- The built-in types. -/
  catalog : Catalog
  /-- The type a name of a user-defined type is bound to. -/
  lookup : QualifiedName → Except Failure ResolvedType

/-- **Something a scope is asked for.** -/
inductive Request where
  /-- The type a name is bound to. -/
  | lookup (name : QualifiedName)
  /-- To turn a type down. -/
  | rejection (cause : Cause)

/-- **A computation that asks a scope things.** -/
structure Inquiry (α : Type) where
  /-- What is asked, in order. -/
  requests : List Request
  /-- What comes of it. -/
  result : Except Failure α

namespace Inquiry

variable {α β γ : Type}

/-- The inquiry that asks nothing and has an answer. -/
protected def pure (a : α) : Inquiry α := ⟨[], .ok a⟩

/-- **One inquiry after another**: the second is made with the answer of
the first, and not at all when there is none. -/
protected def bind (x : Inquiry α) (f : α → Inquiry β) : Inquiry β :=
  match x.result with
  | .ok a => ⟨x.requests ++ (f a).requests, (f a).result⟩
  | .error e => ⟨x.requests, .error e⟩

instance : Monad Inquiry where
  pure := Inquiry.pure
  bind := Inquiry.bind

/-- Asking what a name is bound to. -/
def lookup (s : Scope) (n : QualifiedName) : Inquiry ResolvedType :=
  ⟨[.lookup n], s.lookup n⟩

/-- Turning a type down. -/
def reject (span : Span) (cause : Cause) : Inquiry α :=
  ⟨[.rejection cause], .error (.rejected ⟨span, cause⟩)⟩

/-- Giving up without asking. -/
def misuse (m : Misuse) : Inquiry α := ⟨[], .error (.misused m)⟩

/-- An answer is asked for without requests. -/
@[simp] theorem requests_pure (a : α) : (pure a : Inquiry α).requests = [] := rfl

/-- An answer is its own result. -/
@[simp] theorem result_pure (a : α) : (pure a : Inquiry α).result = .ok a := rfl

/-- What comes of one inquiry after another. -/
@[simp] theorem result_bind (x : Inquiry α) (f : α → Inquiry β) :
    (x >>= f).result = x.result >>= fun a => (f a).result := by
  obtain ⟨q, r⟩ := x
  cases r <;> rfl

/-- With an answer to the first inquiry, its requests come first. -/
theorem requests_bind_of_ok {x : Inquiry α} {a : α} (h : x.result = .ok a)
    (f : α → Inquiry β) : (x >>= f).requests = x.requests ++ (f a).requests := by
  show (Inquiry.bind x f).requests = _
  simp [Inquiry.bind, h]

/-- Without one, no further requests are made. -/
theorem requests_bind_of_error {x : Inquiry α} {e : Failure}
    (h : x.result = .error e) (f : α → Inquiry β) :
    (x >>= f).requests = x.requests := by
  show (Inquiry.bind x f).requests = _
  simp [Inquiry.bind, h]

instance : LawfulMonad Inquiry := LawfulMonad.mk' Inquiry
  (fun x => by
    obtain ⟨q, r⟩ := x
    cases r <;> simp [Functor.map, Inquiry.bind, Inquiry.pure])
  (fun a f => by
    simp [pure, bind, Inquiry.bind, Inquiry.pure])
  (fun x f g => by
    obtain ⟨q, r⟩ := x
    cases r with
    | error e => rfl
    | ok a =>
      simp only [bind, Inquiry.bind]
      cases (f a).result <;> simp)

/-- Making something of an answer makes no requests. -/
@[simp] theorem requests_map (f : α → β) (x : Inquiry α) : (f <$> x).requests = x.requests := by
  obtain ⟨q, r⟩ := x
  cases r with
  | error e => rfl
  | ok a => exact List.append_nil q

/-- What is made of an answer is made of the result. -/
@[simp] theorem result_map (f : α → β) (x : Inquiry α) : (f <$> x).result = f <$> x.result := by
  obtain ⟨q, r⟩ := x
  cases r <;> rfl

end Inquiry

end SqlTyping
