import Webhookery.Go.Canonical

/-!
# Documents

A type with a JSON form that can be read back. Strings are written as such and numbers by their digits, pairs are
objects of two members, and a list is an object with a member for each item.
-/

namespace Webhookery.Go

open Value

/-- The JSON form of a type: how its values are written, what the decoder makes of the text, and how that is read.
The depth is that of the objects in it. -/
class Document (α : Type) where
  depth : Nat
  write : α → Value
  json : α → Json
  read : Json → Option α
  reads : ∀ n, depth ≤ n → ∀ a, Reads n (write a) (json a)
  read_json : ∀ a, read (json a) = some a

namespace Document

variable {α β : Type} [Document α] [Document β]

/-- A type that is written as another one. -/
@[reducible] def ofPartialInverse {γ : Type} (f : γ → α) (g : α → Option γ) (h : ∀ c, g (f c) = some c) :
    Document γ where
  depth := depth α
  write c := write (f c)
  json c := json (f c)
  read j := (read j).bind g
  reads n hn c := reads n hn (f c)
  read_json c := by rw [read_json, Option.bind_some, h]

instance instString : Document String where
  depth := 0
  write := .str
  json := .str
  read
    | .str s => some s
    | _ => none
  reads _ _ := .str
  read_json _ := rfl

instance instNat : Document Nat :=
  ofPartialInverse (fun n ↦ String.ofList (Nat.toDigits 10 n)) (fun s ↦ some (Nat.ofDigitChars 10 s.toList 0)) fun n ↦ by
    rw [String.toList_ofList, Nat.ofDigitChars_ten_toDigits]

instance instBool : Document Bool :=
  ofPartialInverse (fun b ↦ if b then "true" else "false") (fun s ↦ some (s == "true")) (by decide)

instance instBytes : Document Bytes := ofPartialInverse hexEncode hexDecode hexDecode_hexEncode

instance instProd : Document (α × β) where
  depth := max (depth α) (depth β) + 1
  write p := .obj [("first", write p.1), ("second", write p.2)]
  json p := .obj [("first", json p.1), ("second", json p.2)]
  read
    | .obj [(_, first), (_, second)] => do return (← read first, ← read second)
    | _ => none
  reads n hn p := by
    obtain ⟨n, rfl⟩ := Nat.exists_eq_add_of_le' (Nat.one_le_of_lt hn)
    have hfields : ∀ field ∈ [("first", write p.1, json p.1), ("second", write p.2, json p.2)],
        Reads n field.2.1 field.2.2 := by
      simp only [List.forall_mem_cons]
      exact ⟨reads n (by omega) p.1, reads n (by omega) p.2, nofun⟩
    exact Reads.obj (f := Prod.fst) hfields
  read_json p := by simp [read_json]

instance instInt : Document Int :=
  ofPartialInverse (fun n ↦ (decide (n < 0), n.natAbs)) (fun p ↦ some (if p.1 then -p.2 else p.2)) fun n ↦ by
    simp only [decide_eq_true_eq, Option.some_inj]
    omega

instance instList : Document (List α) where
  depth := depth α + 1
  write l := .obj (l.map fun a ↦ ("item", write a))
  json l := .obj (l.map fun a ↦ ("item", json a))
  read
    | .obj members => members.mapM fun member ↦ read member.2
    | _ => none
  reads n hn l := by
    obtain ⟨n, rfl⟩ := Nat.exists_eq_add_of_le' (Nat.one_le_of_lt hn)
    exact Reads.obj fun a _ ↦ reads n (by omega) a
  read_json l := by
    induction l with
    | nil => rfl
    | cons a l ih => simp_all [List.mapM_cons, read_json]

instance instOption : Document (Option α) :=
  ofPartialInverse Option.toList (fun l ↦ some l.head?) fun a ↦ by cases a <;> rfl

def text (a : α) : Bytes := marshal (write a)

def parse (body : Bytes) : Option α := (Json.parse (decodeFrom 0 body)).bind read

/-- What was written can be read, with white space behind it. -/
theorem parse_text (hdepth : depth α ≤ Json.maxNestingDepth) (a : α) {white : List Char}
    (hwhite : Json.skipSpace white = []) : parse (text a ++ utf8Encode white) = some a := by
  rw [parse, text, marshal, ← utf8Encode_append, decodeFrom_utf8Encode, (reads _ hdepth a).parse white hwhite,
    Option.bind_some, read_json]

end Document

end Webhookery.Go
