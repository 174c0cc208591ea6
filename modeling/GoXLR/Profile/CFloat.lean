import Mathlib.Data.Int.Log
import Mathlib.Data.Nat.Digits
import Mathlib.Data.Rat.Floor
import Mathlib.Data.List.Basic

/-! `str::parse::<c_float>` and the saturating `as u8` / `as u16` casts the profile components
apply to what it returns. An `f32` is kept as the exact rational it denotes, so that parsing is
the decimal value rounded to the nearest `f32`. -/

namespace GoXLR.Profile

/-- The kind of a `ParseFloatError`. -/
inductive FloatErrorKind
  | Empty
  | Invalid
  deriving DecidableEq, Repr

/-- An `f32`: a finite value, exactly representable in binary32, an infinity, or NaN. -/
inductive CFloat
  | finite (value : ℚ)
  | infinity (negative : Bool)
  | nan
  deriving DecidableEq

def roundHalfEven (x : ℚ) : ℤ :=
  if x - ⌊x⌋ < 1 / 2 then ⌊x⌋
  else if 1 / 2 < x - ⌊x⌋ then ⌊x⌋ + 1
  else if ⌊x⌋ % 2 = 0 then ⌊x⌋ else ⌊x⌋ + 1

def roundF32 (q : ℚ) : CFloat :=
  if q = 0 then .finite 0
  else
    let e : ℤ := max (Int.log 2 |q| - 23) (-149)
    let v : ℚ := roundHalfEven (|q| / 2 ^ e) * 2 ^ e
    if (2 : ℚ) ^ 128 ≤ v then .infinity (decide (q < 0)) else .finite (if q < 0 then -v else v)

def digitsVal (ds : List Char) : Nat :=
  ds.foldl (fun acc c => 10 * acc + (c.toNat - 48)) 0

def splitSign : List Char → Bool × List Char
  | '+' :: r => (false, r)
  | '-' :: r => (true, r)
  | r => (false, r)

/-- Rust's decimal float syntax after the sign: `Digit* ('.' Digit*)?` with a digit on one side
of the point at least, then optionally `('e' | 'E') Sign? Digit+`. -/
def parseDecimal (cs : List Char) : Option ℚ :=
  let (intPart, rest) := cs.span Char.isDigit
  let (fracPart, rest) := match rest with
    | '.' :: r => r.span Char.isDigit
    | r => ([], r)
  if intPart.isEmpty && fracPart.isEmpty then none
  else
    let mantissa : ℚ := digitsVal (intPart ++ fracPart)
    match rest with
    | [] => some (mantissa / 10 ^ fracPart.length)
    | c :: exponent =>
      if c = 'e' ∨ c = 'E' then
        let (negative, digits) := splitSign exponent
        if digits.isEmpty || !digits.all Char.isDigit then none
        else
          let power : ℤ := if negative then -(digitsVal digits : ℤ) else digitsVal digits
          some (mantissa * 10 ^ (power - fracPart.length))
      else none

/-- `str::parse::<c_float>`: a sign, then `inf`, `infinity` or `nan` in any case, or a decimal
number, rounded to the nearest `f32`. -/
def parseCFloat (s : String) : Except FloatErrorKind CFloat :=
  match s.toList with
  | [] => .error .Empty
  | cs =>
    let (negative, body) := splitSign cs
    let lower := String.mk (body.map Char.toLower)
    if lower = "inf" ∨ lower = "infinity" then .ok (.infinity negative)
    else if lower = "nan" then .ok .nan
    else match parseDecimal body with
      | some q => .ok (roundF32 (if negative then -q else q))
      | none => .error .Invalid

/-- A float-to-integer `as` cast onto `0..=max`: NaN to 0, truncation toward zero, saturation
at both ends. -/
def CFloat.saturate (max : Nat) : CFloat → Nat
  | .finite q => if q ≤ 0 then 0 else min ⌊q⌋₊ max
  | .infinity negative => if negative then 0 else max
  | .nan => 0

/-- `as u8`. -/
def CFloat.asU8 (f : CFloat) : UInt8 := (f.saturate 255).toUInt8

/-- `as u16`. -/
def CFloat.asU16 (f : CFloat) : UInt16 := (f.saturate 65535).toUInt16

theorem foldl_digitsVal (acc : Nat) (ds : List Char) :
    ds.foldl (fun acc c => 10 * acc + (c.toNat - 48)) acc = acc * 10 ^ ds.length + digitsVal ds := by
  induction ds generalizing acc with
  | nil => simp [digitsVal]
  | cons c ds ih =>
    simp only [List.foldl_cons, digitsVal, List.length_cons] at *
    rw [ih, ih (10 * 0 + _)]
    ring

theorem digitsVal_append (as bs : List Char) :
    digitsVal (as ++ bs) = digitsVal as * 10 ^ bs.length + digitsVal bs := by
  rw [digitsVal, List.foldl_append, foldl_digitsVal]; rfl

theorem digitChar_toNat {d : Nat} (h : d < 10) : (Nat.digitChar d).toNat - 48 = d :=
  (by decide : ∀ d < 10, (Nat.digitChar d).toNat - 48 = d) d h

theorem isDigit_digitChar {d : Nat} (h : d < 10) : (Nat.digitChar d).isDigit :=
  (by decide : ∀ d < 10, (Nat.digitChar d).isDigit) d h

theorem toDigitsCore_append (f n : Nat) (ds : List Char) :
    Nat.toDigitsCore 10 f n ds = Nat.toDigitsCore 10 f n [] ++ ds := by
  induction f generalizing n ds with
  | zero => rfl
  | succ f ih =>
    simp only [Nat.toDigitsCore]
    split
    · rfl
    · rw [ih _ (_ :: ds), ih _ [_]]; simp

theorem toDigitsCore_spec (f n : Nat) (hf : n < f) :
    (∀ c ∈ Nat.toDigitsCore 10 f n [], c.isDigit) ∧ Nat.toDigitsCore 10 f n [] ≠ [] ∧
      digitsVal (Nat.toDigitsCore 10 f n []) = n := by
  induction f generalizing n with
  | zero => omega
  | succ f ih =>
    have hd : n % 10 < 10 := Nat.mod_lt _ (by norm_num)
    simp only [Nat.toDigitsCore]
    split
    · next h0 =>
      refine ⟨by simpa using isDigit_digitChar hd, by simp, ?_⟩
      simp [digitsVal, digitChar_toNat hd]
      omega
    · obtain ⟨hall, hne, hval⟩ := ih (n / 10) (by omega)
      rw [toDigitsCore_append]
      refine ⟨?_, by simp, ?_⟩
      · simp only [List.mem_append, List.mem_singleton]
        rintro c (hc | rfl)
        exacts [hall c hc, isDigit_digitChar hd]
      rw [digitsVal_append, hval]
      simp [digitsVal, digitChar_toNat hd]
      omega

theorem toString_toList (n : Nat) : (toString n).toList = Nat.toDigitsCore 10 (n + 1) n [] := rfl

theorem parseDecimal_digits {ds : List Char} (hall : ∀ c ∈ ds, c.isDigit) (hne : ds ≠ []) :
    parseDecimal ds = some (digitsVal ds : ℚ) := by
  have hempty : ds.isEmpty = false := by cases ds <;> simp_all
  simp [parseDecimal, List.span_eq_take_drop, List.takeWhile_eq_self_iff.2 hall,
    List.dropWhile_eq_nil_iff.2 hall, hempty]

theorem roundHalfEven_intCast (k : ℤ) : roundHalfEven k = k := by
  simp [roundHalfEven]

theorem roundF32_natCast {n : Nat} (hn : n < 2 ^ 24) : roundF32 n = .finite n := by
  rcases Nat.eq_zero_or_pos n with rfl | hpos
  · simp [roundF32]
  have hlog : Nat.log 2 n < 24 := Nat.log_lt_of_lt_pow hpos.ne' hn
  set m := 23 - Nat.log 2 n with hm
  have he : max (Int.log 2 |(n : ℚ)| - 23) (-149) = -(m : ℤ) := by
    rw [abs_of_nonneg (Nat.cast_nonneg _), Int.log_natCast]; omega
  have hv : (roundHalfEven (|(n : ℚ)| / 2 ^ (-(m : ℤ))) : ℚ) * 2 ^ (-(m : ℤ)) = n := by
    have hk : |(n : ℚ)| / 2 ^ (-(m : ℤ)) = ((n * 2 ^ m : ℤ) : ℚ) := by
      rw [abs_of_nonneg (Nat.cast_nonneg _), zpow_neg, div_inv_eq_mul, zpow_natCast]; push_cast; ring
    rw [hk, roundHalfEven_intCast, zpow_neg, zpow_natCast]; push_cast
    field_simp
  have hsmall : ¬(2 : ℚ) ^ 128 ≤ n := by
    rw [not_le]; exact_mod_cast hn.trans (by norm_num)
  simp only [roundF32, Nat.cast_eq_zero, hpos.ne', if_false, he, hv, hsmall,
    show ¬((n : ℚ) < 0) from not_lt.2 (Nat.cast_nonneg _)]

theorem splitSign_of_isDigit {c : Char} (cs : List Char) (h : c.isDigit) :
    splitSign (c :: cs) = (false, c :: cs) := by
  unfold splitSign; split <;> simp_all

theorem toLower_of_isDigit {c : Char} (h : c.isDigit) : c.toLower = c := by
  unfold Char.toLower
  rw [if_neg]
  rintro ⟨h₁, -⟩
  simp only [Char.isDigit, Bool.and_eq_true, decide_eq_true_eq] at h
  have h₂ : c.val.toNat ≤ 57 := h.2
  simp only [Char.toNat] at h₁
  omega

theorem parseCFloat_digits {ds : List Char} (hall : ∀ c ∈ ds, c.isDigit) (hne : ds ≠ []) :
    parseCFloat ⟨ds⟩ = .ok (roundF32 (digitsVal ds)) := by
  obtain ⟨c, cs, rfl⟩ := List.exists_cons_of_ne_nil hne
  have hlow : (c :: cs).map Char.toLower = c :: cs := by
    conv_rhs => rw [← List.map_id (c :: cs)]
    exact List.map_congr_left fun a ha => toLower_of_isDigit (hall a ha)
  have word : ∀ w : String, (∃ x ∈ w.toList, x.isDigit = false) → String.mk (c :: cs) ≠ w := by
    rintro w ⟨x, hx, hd⟩ rfl
    simp [hall x hx] at hd
  simp only [parseCFloat, String.toList, splitSign_of_isDigit cs (hall c (List.mem_cons_self _ _)), hlow,
    word "inf" ⟨'i', by decide, by decide⟩, word "infinity" ⟨'i', by decide, by decide⟩,
    word "nan" ⟨'n', by decide, by decide⟩, parseDecimal_digits hall hne]
  rfl

theorem parseCFloat_toString {n : Nat} (hn : n < 2 ^ 24) :
    parseCFloat (toString n) = .ok (.finite n) := by
  obtain ⟨hall, hne, hval⟩ := toDigitsCore_spec (n + 1) n (Nat.lt_succ_self n)
  rw [← toString_toList] at hall hne hval
  rw [show toString n = ⟨(toString n).toList⟩ from rfl, parseCFloat_digits hall hne, hval,
    roundF32_natCast hn]

theorem CFloat.saturate_natCast {n max : Nat} (h : n ≤ max) : (CFloat.finite n).saturate max = n := by
  rcases Nat.eq_zero_or_pos n with rfl | hpos
  · simp [saturate]
  · simp [saturate, hpos.ne', h]

theorem CFloat.asU8_natCast (x : UInt8) : (CFloat.finite x.toNat).asU8 = x := by
  have hx : x.toNat < 256 := x.toNat_lt_size
  apply UInt8.toNat.inj
  rw [asU8, saturate_natCast (by omega)]
  exact Nat.mod_eq_of_lt hx

theorem CFloat.asU16_natCast (x : UInt16) : (CFloat.finite x.toNat).asU16 = x := by
  have hx : x.toNat < 65536 := x.toNat_lt_size
  apply UInt16.toNat.inj
  rw [asU16, saturate_natCast (by omega)]
  exact Nat.mod_eq_of_lt hx

end GoXLR.Profile
