/-
  An identifier is read back from its text.

  The grouped form is thirty-two digits with four dashes put in, so the two halves of the proof do not meet: what
  the digits are worth (`value?_digits`), and that the dashes come out again (`ungroup?_grouped`).
-/
import DriveAdvisory.Proofs.Json.Scalars
import DriveAdvisory.Text.Identifier

namespace DriveAdvisory.Identifier

theorem length_digits : ∀ count n, (digits count n).length = count
  | 0, _ => rfl
  | count + 1, n => by
    rw [digits, List.length_append, length_digits count]
    rfl

/-- Digits are worth the number that they are the last digits of. -/
theorem value?_digits : ∀ count n, value? (digits count n) = some (n % 16 ^ count)
  | 0, n => by
    rw [Nat.pow_zero, Nat.mod_one]
    rfl
  | count + 1, n => by
    have hfront := value?_digits count (n / 16)
    rw [value?] at hfront
    rw [value?, digits, List.foldl_append, hfront, Nat.pow_succ', Nat.mod_mul]
    show (Json.hexValue? (Json.hexDigit (n % 16))).bind _ = _
    rw [Json.hexValue?_hexDigit (n % 16) (Nat.mod_lt _ (by decide))]
    show some (n / 16 % 16 ^ count * 16 + n % 16) = _
    congr 1
    omega

/-- The dashes come out again. -/
theorem ungroup?_grouped {a b c d e : List Char} (ha : a.length = 8) (hb : b.length = 4)
    (hc : c.length = 4) (hd : d.length = 4) (he : e.length = 12) :
    ungroup? (a ++ '-' :: b ++ '-' :: c ++ '-' :: d ++ '-' :: e) = some (a ++ b ++ c ++ d ++ e) := by
  have hdashes : [8, 13, 18, 23].all fun place =>
      (a ++ '-' :: b ++ '-' :: c ++ '-' :: d ++ '-' :: e)[place]? == some '-' := by
    simp [List.getElem?_append, ha, hb, hc, hd]
  rw [ungroup?, if_pos ⟨by simp [ha, hb, hc, hd, he], hdashes⟩]
  simp (disch := omega) [List.drop_append, List.drop_eq_nil_of_le, ha, hb, hc, hd]

/-- Cutting digits into groups and putting them together again gives them back. -/
theorem groups_append (cs : List Char) : cs.take 8 ++ (cs.drop 8).take 4 ++ (cs.drop 12).take 4
    ++ (cs.drop 16).take 4 ++ cs.drop 20 = cs := by
  have hcut : ∀ n, (cs.drop n).take 4 ++ cs.drop (n + 4) = cs.drop n := by
    intro n
    rw [← List.drop_drop, List.take_append_drop]
  rw [List.append_assoc, List.append_assoc, List.append_assoc, hcut 16, hcut 12, hcut 8,
    List.take_append_drop]

/-- **An identifier is read back** from its text. -/
theorem ofText?_text (id : Identifier) : ofText? (text id) = some id := by
  have hlength := length_digits 32 id.toNat
  have hvalue : value? (digits 32 id.toNat) = some id.toNat := by
    rw [value?_digits]
    exact congrArg some (Nat.mod_eq_of_lt id.isLt)
  rw [ofText?, text, String.toList_ofList]
  -- from here on only the number of the digits counts, and what they are worth
  generalize digits 32 id.toNat = cs at hlength hvalue
  have hungrouped := ungroup?_grouped (a := cs.take 8) (b := (cs.drop 8).take 4)
    (c := (cs.drop 12).take 4) (d := (cs.drop 16).take 4) (e := cs.drop 20)
    (by simp [hlength]) (by simp [hlength]) (by simp [hlength]) (by simp [hlength])
    (by simp [hlength])
  rw [groups_append] at hungrouped
  have hgrouped : cs.take 8 ++ ['-'] ++ (cs.drop 8).take 4 ++ ['-'] ++ (cs.drop 12).take 4 ++ ['-']
      ++ (cs.drop 16).take 4 ++ ['-'] ++ cs.drop 20 =
    cs.take 8 ++ '-' :: (cs.drop 8).take 4 ++ '-' :: (cs.drop 12).take 4
      ++ '-' :: (cs.drop 16).take 4 ++ '-' :: cs.drop 20 := by simp
  rw [hgrouped, bare?, if_neg (by simp [hlength]), if_pos (by simp [hlength]), hungrouped,
    Option.bind_some, hvalue, Option.map_some, BitVec.ofNat_toNat, BitVec.setWidth_eq]

end DriveAdvisory.Identifier
