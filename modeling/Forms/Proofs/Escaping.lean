import Forms.Json.Printer
import Forms.Json.Token
import Mathlib.Tactic.SplitIfs

/-!
# Text between quotes

A printed string is read back as it was, up to its closing quote, whatever stands behind it: inside
the string every quote is escaped.
-/

namespace Forms

open Token

/-- How a character is written inside quotes. -/
def pieceOf (c : Char) : Piece :=
  if c.toNat < 0x20 ∧ c ∉ ['\x08', '\x0c', '\n', '\r', '\t'] then .codeUnit c.toNat else .char c

theorem hexValue?_hexDigit : ∀ value < 16, hexValue? (Json.hexDigit value) = some value := by
  decide

theorem pieces_shortEscape {letter c : Char} (hletter : letter ≠ 'u')
    (hescape : shortEscape? letter = some c) (rest : List Char) :
    pieces ('\\' :: letter :: rest) =
      (pieces rest).map fun (others, after) => (.char c :: others, after) := by
  rw [pieces, hescape]
  · cases pieces rest <;> rfl
  · intro _ _ _ _ _ heq
    exact absurd heq hletter

theorem pieces_plain {c : Char} (hquote : c ≠ '"') (hbackslash : c ≠ '\\')
    (hcontrol : ¬c.toNat < 0x20) (rest : List Char) :
    pieces (c :: rest) = (pieces rest).map fun (others, after) => (.char c :: others, after) := by
  rw [pieces]
  · rw [if_neg (by simp [hbackslash, hcontrol])]
    cases pieces rest <;> rfl
  · exact fun heq => absurd heq hquote
  · exact fun _ _ _ _ _ heq => absurd heq hbackslash
  · exact fun _ _ heq => absurd heq hbackslash

theorem pieces_escaped (c : Char) (rest : List Char) :
    pieces (Json.escaped c ++ rest) =
      (pieces rest).map fun (others, after) => (pieceOf c :: others, after) := by
  unfold Json.escaped
  split_ifs with hquote hbackslash hback hform hline hreturn htab hcontrol
  · subst hquote
    exact pieces_shortEscape (by decide) rfl rest
  · subst hbackslash
    exact pieces_shortEscape (by decide) rfl rest
  · subst hback
    exact pieces_shortEscape (by decide) rfl rest
  · subst hform
    exact pieces_shortEscape (by decide) rfl rest
  · subst hline
    exact pieces_shortEscape (by decide) rfl rest
  · subst hreturn
    exact pieces_shortEscape (by decide) rfl rest
  · subst htab
    exact pieces_shortEscape (by decide) rfl rest
  · have hhigh := hexValue?_hexDigit (c.toNat / 16) (by omega)
    have hlow := hexValue?_hexDigit (c.toNat % 16) (by omega)
    have hzero : hexValue? '0' = some 0 := rfl
    have hcode : ((0 * 16 + 0) * 16 + c.toNat / 16) * 16 + c.toNat % 16 = c.toNat := by omega
    have hpiece : pieceOf c = .codeUnit c.toNat := by
      simp [pieceOf, hcontrol, hback, hform, hline, hreturn, htab]
    simp only [List.cons_append, List.nil_append]
    rw [pieces, hzero, hhigh, hlow, hpiece]
    simp only [Option.bind_eq_bind, Option.bind_some, hcode]
    cases pieces rest <;> rfl
  · have hpiece : pieceOf c = .char c := by simp [pieceOf, hcontrol]
    rw [hpiece]
    exact pieces_plain hquote hbackslash hcontrol rest

theorem pieces_flatMap_escaped (text rest : List Char) :
    pieces (text.flatMap Json.escaped ++ '"' :: rest) = some (text.map pieceOf, rest) := by
  induction text with
  | nil => rfl
  | cons c text ih =>
      rw [List.flatMap_cons, List.append_assoc, pieces_escaped, ih]
      rfl

/-- A unit that is no half of a pair stands for its character, whatever comes behind it. -/
theorem characters?_codeUnit {code : Nat} (hcode : code < 0xD800) (rest : List Piece) :
    characters? (.codeUnit code :: rest) = (characters? rest).map (Char.ofNat code :: ·) := by
  match rest with
  | [] =>
      simp only [characters?]
      rw [if_neg (by omega)]
  | .char c :: rest =>
      simp only [characters?]
      rw [if_neg (by omega)]
  | .codeUnit low :: rest =>
      rw [characters?, if_neg (by omega), if_neg (by omega)]

/-- The pieces of a printed text give the text. -/
theorem characters?_map_pieceOf (text : List Char) :
    characters? (text.map pieceOf) = some text := by
  induction text with
  | nil => rfl
  | cons c text ih =>
      rw [List.map_cons, pieceOf]
      split
      · rename_i hcontrol
        rw [characters?_codeUnit (by omega), ih, Char.ofNat_toNat, Option.map_some]
      · rw [characters?, ih, Option.map_some]

end Forms
