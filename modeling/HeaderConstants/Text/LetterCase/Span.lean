namespace HeaderConstants.Text

/-- A run of characters, `step` code points apart, whose other letter case lies `shift` code
points further on. -/
structure CaseSpan where
  first : Nat
  last : Nat
  step : Nat
  shift : Int

/-- Whether a character is one of the span. -/
def CaseSpan.covers (span : CaseSpan) (c : Char) : Bool :=
  span.first ≤ c.toNat && c.toNat ≤ span.last && (c.toNat - span.first) % span.step == 0

/-- The character in the other letter case. -/
def CaseSpan.image (span : CaseSpan) (c : Char) : Char :=
  Char.ofNat (c.toNat + span.shift).toNat

/-- One character in another letter case: an expansion if it has one, else the image under the
span that covers it, else itself. -/
def changeCase (expansions : List (Nat × List Nat)) (spans : List CaseSpan) (c : Char) :
    List Char :=
  match expansions.lookup c.toNat with
  | some codes => codes.map Char.ofNat
  | none =>
    match spans.find? (·.covers c) with
    | some span => [span.image c]
    | none => [c]

end HeaderConstants.Text
