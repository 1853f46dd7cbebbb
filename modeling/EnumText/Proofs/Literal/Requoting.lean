import EnumText.Proofs.Literal.Quoting

/-!
# Quoting again what a literal denotes

What a literal without stray bytes denotes is either free of stray bytes itself, or decoded from
bytes at once. So no two bytes in it are left to grow together, and quoting it loses nothing.

* `decode_encode_of_unquote?`: what such a literal denotes survives being written as bytes.
* `unquote?_quote_inverse`: quoting and reading literals are inverse.
-/

namespace EnumText.Literal

/-- What a literal without stray bytes denotes survives being written as bytes. -/
theorem decode_encode_of_unquote? {literal value : Text} (scalar : Text.isScalar literal = true)
    (h : unquote? literal = some value) : Utf8.decode (Text.encode value) = value := by
  cases denotes_of_unquote? scalar h with
  | raw _ =>
    have inner := isScalar_of_enclosed scalar
    apply Text.decode_encode
    exact List.all_eq_true.2 fun c mem => List.all_eq_true.1 inner c (List.mem_filter.1 mem).1
  | string _ => rw [Utf8.encode_decode]
  | rune _ one => rw [← one, Utf8.encode_decode]

/-- Quoting and reading literals are inverse. The literal of any text is read as what the bytes of
the text decode to, so the text itself comes back exactly if it survives being written as bytes. And
what any literal without stray bytes denotes comes back from its own literal, also where escapes in
it stand for bytes that are not UTF-8. -/
theorem unquote?_quote_inverse :
    (∀ v : Text, unquote? (quote v) = some (Utf8.decode (Text.encode v)) ∧
      (unquote? (quote v) = some v ↔ Utf8.decode (Text.encode v) = v)) ∧
    ∀ literal value : Text, Text.isScalar literal = true → unquote? literal = some value →
      unquote? (quote value) = some value := by
  refine ⟨fun v => ⟨unquote?_quote v, ?_⟩, fun literal value scalar read => ?_⟩
  · rw [unquote?_quote, Option.some.injEq]
  · rw [unquote?_quote, decode_encode_of_unquote? scalar read]

/-- Two escaped bytes make one letter, a third belongs to none, and all of this comes back. -/
theorem unquote?_quote_inverse_bytes :
    let literal := text "\"\\xc3\\251 \\xff\\u00e9\\t\""
    let value : Text := [.scalar 'é', .scalar ' ', .stray 127, .scalar 'é', .scalar '\t']
    Text.isScalar literal = true ∧ unquote? literal = some value ∧
      quote value = text "\"é \\xffé\\t\"" ∧ unquote? (quote value) = some value := by
  intro literal value
  have scalar : Text.isScalar literal = true := by decide +kernel
  have read : unquote? literal = some value := by decide +kernel
  exact ⟨scalar, read, by decide +kernel, unquote?_quote_inverse.2 literal value scalar read⟩

/-- Two stray bytes that grow together do not survive. -/
example : Utf8.decode (Text.encode [.stray 0x43, .stray 0x29]) = text "é" := by decide +kernel

end EnumText.Literal
