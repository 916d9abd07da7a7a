import CurlSnippets.Datum.Json
import CurlSnippets.Http.Response
import CurlSnippets.Proofs.Bytes.Base64
import CurlSnippets.Proofs.Bytes.Utf8
import CurlSnippets.Proofs.Json.Printed

/-!
# Values sent and received as JSON

A value of the JSON kinds survives the way into a JSON body and out of a response that sends the same
octets back.  A decimal number of integer value takes part as that integer.
-/

namespace CurlSnippets

namespace Datum

mutual

/-- The JSON value that a caller's value is: nothing, a truth value, an integer within the digit
limit or a decimal number of such a value, a text, a list, or a dictionary whose keys are pairwise
different texts, in their order. -/
inductive Denotes : Datum → Json → Prop where
  | none : Denotes .none .null
  | bool (b : Bool) : Denotes (.bool b) (.bool b)
  | int {n : Int} : digitCount n.natAbs ≤ digitLimit → Denotes (.int n) (.int n)
  | decimal {x : Numeral} {n : Int} :
      x.value = n → digitCount n.natAbs ≤ digitLimit → Denotes (.decimal (.finite x)) (.int n)
  | text (t : Text) : Denotes (.text t) (.string t)
  | list {items : List Datum} {js : List Json} :
      DenotesItems items js → Denotes (.list items) (.array js)
  | dict {entries : List (Datum × Datum)} {members : List (CodeUnits × Json)} :
      DenotesMembers entries members → (members.map Prod.fst).Nodup →
      Denotes (.dict entries) (.object members)

/-- The JSON values of items, one for each. -/
inductive DenotesItems : List Datum → List Json → Prop where
  | nil : DenotesItems [] []
  | cons {v : Datum} {j : Json} {items : List Datum} {js : List Json} :
      Denotes v j → DenotesItems items js → DenotesItems (v :: items) (j :: js)

/-- The members that entries are, one for each. -/
inductive DenotesMembers : List (Datum × Datum) → List (CodeUnits × Json) → Prop where
  | nil : DenotesMembers [] []
  | cons {name : Text} {v : Datum} {j : Json} {entries : List (Datum × Datum)}
      {members : List (CodeUnits × Json)} :
      Denotes v j → DenotesMembers entries members →
      DenotesMembers ((.text name, v) :: entries) ((name, j) :: members)

end

theorem encodeInt_of_le {n : Int} (h : digitCount n.natAbs ≤ digitLimit) : encodeInt n = .ok n := by
  rw [encodeInt, if_neg (Nat.not_lt.2 h)]

/-- A decimal number of integer value becomes the integer. -/
theorem encodeDecimal_of_value {x : Numeral} {n : Int} (h : x.value = n)
    (short : digitCount n.natAbs ≤ digitLimit) : encodeDecimal (.finite x) = .ok (.int n) := by
  obtain ⟨size, sign⟩ := Numeral.size_of_value h
  obtain ⟨coefficient, zeros, found, product, count⟩ := Decimal.whole?_of_size size
  -- digits and zeros together are the digits of the integer
  have fits : ¬ digitCount coefficient + zeros > digitLimit := by
    rw [count]
    exact Nat.not_lt.2 short
  have abs : ((coefficient * Nat.pow 10 zeros : Nat) : Int) = n.natAbs := by
    rw [← product]
    rfl
  rw [encodeDecimal, found]
  simp only [fits, if_false, ← Int.natCast_mul, abs]
  rw [← sign]

mutual

/-- A value becomes the JSON value that it is. -/
theorem encode_of_denotes : ∀ {v : Datum} {j : Json}, Denotes v j → encode v = .ok j
  | _, _, .none => rfl
  | _, _, .bool _ => rfl
  | _, _, .int short => by rw [encode, encodeInt_of_le short]; rfl
  | _, _, .decimal value short => by rw [encode, encodeDecimal_of_value value short]
  | _, _, .text _ => rfl
  | _, _, .list items => by rw [encode, encodeItems_of_denotes items]; rfl
  | _, _, .dict members _ => by rw [encode, encodeEntries_of_denotes members]; rfl

theorem encodeItems_of_denotes :
    ∀ {items : List Datum} {js : List Json}, DenotesItems items js → encodeItems items = .ok js
  | _, _, .nil => rfl
  | _, _, .cons item items => by
    rw [encodeItems, encode_of_denotes item, encodeItems_of_denotes items]
    rfl

theorem encodeEntries_of_denotes : ∀ {entries : List (Datum × Datum)}
    {members : List (CodeUnits × Json)}, DenotesMembers entries members →
      encodeEntries entries = .ok members
  | _, _, .nil => rfl
  | _, _, .cons value members => by
    rw [encodeEntries, encodeKey, encode_of_denotes value, encodeEntries_of_denotes members]
    rfl

end

mutual

/-- What a value is loses nothing in a text. -/
theorem lossless_of_denotes : ∀ {v : Datum} {j : Json}, Denotes v j → Json.Lossless j
  | _, _, .none => .of_simple (by simp) (by simp) (by simp) (by simp)
  | _, _, .bool _ => .of_simple (by simp) (by simp) (by simp) (by simp)
  | _, _, .int short => .of_simple (by simp) (by simp) (by simpa using short) (by simp)
  | _, _, .decimal _ short => .of_simple (by simp) (by simp) (by simpa using short) (by simp)
  | _, _, .text _ => .of_simple (by simp) (by simp) (by simp) (by simp)
  | _, _, .list items => .array (lossless_of_denotesItems items)
  | _, _, .dict members nodup => .object (lossless_of_denotesMembers members) nodup

theorem lossless_of_denotesItems : ∀ {items : List Datum} {js : List Json},
    DenotesItems items js → ∀ j ∈ js, Json.Lossless j
  | _, _, .nil => List.forall_mem_nil _
  | _, _, .cons item items =>
    List.forall_mem_cons.2 ⟨lossless_of_denotes item, lossless_of_denotesItems items⟩

theorem lossless_of_denotesMembers : ∀ {entries : List (Datum × Datum)}
    {members : List (CodeUnits × Json)}, DenotesMembers entries members →
      ∀ p ∈ members, Json.Lossless p.2
  | _, _, .nil => List.forall_mem_nil _
  | _, _, .cons value members =>
    List.forall_mem_cons.2 ⟨lossless_of_denotes value, lossless_of_denotesMembers members⟩

end

end Datum

/-- **A value sent as a JSON body comes back** from a response with the octets of the body, decimal
numbers as the integers they are. -/
theorem Response.json_bodyJson {v : Datum} {j : Json} (h : v.Denotes j) :
    ∃ content, Body.json v = .ok (.raw content (some "application/json")) ∧
      Response.json (Base64.encode (Utf8.encode content)) = .ok (some j) := by
  refine ⟨j.print, ?_, ?_⟩
  · rw [Body.json, Datum.encode_of_denotes h]
    rfl
  · have reads : Json.read j.print = .ok j := Json.read_render (Datum.lossless_of_denotes h) 0
    rw [Response.json, Response.text_encode, Json.decode, reads]

theorem Response.json_bodyJson_nested :
    ∃ content, Body.json
        (.dict [(.text "say \"hi\"", .list [.none, .bool true, .int (-12), .list [],
            .decimal (.finite ⟨true, 1500, -2⟩)]),
          (.text "\\", .dict [(.text [], .text ['\x01', '\n', '😀'])])]) =
        .ok (.raw content (some "application/json")) ∧
      Response.json (Base64.encode (Utf8.encode content)) =
        .ok (some (.object [("say \"hi\"",
            .array [.null, .bool true, .int (-12), .array [], .int (-15)]),
          ("\\", .object [([], .string (['\x01', '\n', '😀'] : Text))])])) := by
  have decimal : Datum.Denotes (.decimal (.finite ⟨true, 1500, -2⟩)) (.int (-15)) := by
    have value : Numeral.value ⟨true, 1500, -2⟩ = ((-15 : Int) : ℚ) := by norm_num [Numeral.value]
    exact .decimal value (by decide)
  have items := Datum.DenotesItems.cons .none <| .cons (.bool true) <|
    .cons (.int (n := -12) (by decide)) <| .cons (.list .nil) <| .cons decimal .nil
  refine Response.json_bodyJson (.dict (.cons (.list items) (.cons ?_ .nil)) (by decide))
  exact .dict (.cons (.text _) .nil) (by decide)

end CurlSnippets
