import Mathlib.Data.List.DropRight
import Signpost.Proofs.Except
import Signpost.Web.Url

/-!
# What is read as a host

In a scheme of the web, only the text of the authority decides on the host (`authority_true`).  No host is read from one
that ends in a blank (`authority_ne_ok_of_blank`): the blank would be the end of a port, of brackets or of a name, and
percent-decoding keeps it.
-/

namespace Signpost.Web

/-! ### Percent-decoding -/

namespace Percent

private theorem bytes_percent {a c : Char} {cs : List Char}
    (h : ∀ x y, Hexadecimal.value? a = some x → Hexadecimal.value? c = some y → False) :
    bytes ('%' :: a :: c :: cs) = String.utf8EncodeChar '%' ++ bytes (a :: c :: cs) := by
  rw [bytes]
  split
  · rename_i x y hx hy
    exact (h x y hx hy).elim
  · rfl

/-- A character at the end that is no digit is kept. -/
theorem bytes_concat {cs : List Char} {b : Char} (hb : Hexadecimal.value? b = none) :
    bytes (cs ++ [b]) = bytes cs ++ String.utf8EncodeChar b := by
  induction cs using bytes.induct with
  | case1 => simp [bytes]
  | case2 a c cs x y hx hy ih => simp [bytes, hx, hy, ih]
  | case3 a c cs hno ih =>
    rw [List.cons_append, List.cons_append, List.cons_append, bytes_percent hno, bytes_percent hno, List.append_assoc,
      ← ih]
    rfl
  | case4 c cs hno ih =>
    rw [List.cons_append, bytes.eq_3 c cs hno, List.append_assoc, ← ih]
    -- the percent sign may stand two places before the end
    rcases cs with _ | ⟨a, _ | ⟨d, ds⟩⟩
    · exact bytes.eq_3 c [b] fun _ _ _ _ h => by cases h
    · by_cases hc : c = '%'
      · subst hc
        refine bytes_percent fun x y _ hy => ?_
        rw [hb] at hy
        cases hy
      · exact bytes.eq_3 c _ fun _ _ _ h _ => hc h
    · refine bytes.eq_3 c _ fun _ _ _ h _ => hno a d ds h rfl

/-- A byte of ASCII stands for itself alone. -/
theorem toNat_of_mem_utf8EncodeChar {c : Char} {b : UInt8} (h : b ∈ String.utf8EncodeChar c) (hb : b.toNat < 0x80) :
    c.toNat = b.toNat := by
  have hwide : ∀ n, 0x80 ≤ n → n < 0x100 → b ≠ UInt8.ofNat n := by
    rintro n hlow hhigh rfl
    rw [UInt8.toNat_ofNat_of_lt' hhigh] at hb
    omega
  rw [String.utf8EncodeChar] at h
  split at h
  · rename_i hascii
    have hlt : c.val.toNat < 0x100 := by omega
    obtain rfl := List.mem_singleton.1 h
    rw [UInt8.toNat_ofNat_of_lt' hlt]
    rfl
  · split at h
    · rcases List.mem_pair.1 h with h | h
      · exact absurd h (hwide _ (by omega) (by omega))
      · exact absurd h (hwide _ (by omega) (by omega))
    · split at h
      · simp only [List.mem_cons, List.not_mem_nil, or_false] at h
        rcases h with h | h | h
        all_goals exact absurd h (hwide _ (by omega) (by omega))
      · simp only [List.mem_cons, List.not_mem_nil, or_false] at h
        rcases h with h | h | h | h
        all_goals exact absurd h (hwide _ (by omega) (by omega))

private theorem utf8EncodeChar_ascii {c : Char} (h : c.toNat < 0x80) :
    String.utf8EncodeChar c = [UInt8.ofNat c.toNat] := by
  have hval : c.val.toNat ≤ 127 := Nat.le_of_lt_succ h
  rw [String.utf8EncodeChar, if_pos hval]
  rfl

/-- A character of ASCII at the end that is no digit is decoded to itself. -/
theorem mem_of_decode? {cs : List Char} {b : Char} {s : String} (hb : Hexadecimal.value? b = none)
    (hascii : b.toNat < 0x80) (h : decode? (String.ofList (cs ++ [b])) = some s) : b ∈ s.toList := by
  rw [decode?, String.toList_ofList, bytes_concat hb, String.fromUTF8?] at h
  split at h
  · have hs : (bytes cs ++ String.utf8EncodeChar b).toByteArray = s.toList.utf8Encode := by
      rw [String.utf8Encode_toList, ← Option.some.inj h]
      rfl
    have hbytes : bytes cs ++ String.utf8EncodeChar b = s.toList.flatMap String.utf8EncodeChar := by
      have hdata := congrArg (·.data.toList) hs
      simpa [List.utf8Encode] using hdata
    have hmem : UInt8.ofNat b.toNat ∈ s.toList.flatMap String.utf8EncodeChar := by
      rw [← hbytes, utf8EncodeChar_ascii hascii]
      exact List.mem_append_right _ List.mem_cons_self
    have hlt : b.toNat < 0x100 := by omega
    have hbyte : (UInt8.ofNat b.toNat).toNat = b.toNat := UInt8.toNat_ofNat_of_lt' hlt
    obtain ⟨c, hc, hcb⟩ := List.mem_flatMap.1 hmem
    have hnat := toNat_of_mem_utf8EncodeChar hcb (by omega)
    rw [hbyte] at hnat
    rwa [← Char.ofNat_toNat b, ← hnat, Char.ofNat_toNat]
  · cases h

end Percent

/-! ### Authorities -/

namespace Url

variable {cs ds : List Char} {b : Char} {host : Option Host}

/-- A blank is nothing that counts in a name, a port or brackets. -/
private theorem kinds_of_blank (hb : isOuterBlank b = true) : b.toNat < 0x80 ∧ Hexadecimal.value? b = none ∧
    HostName.replace b = [b] ∧ HostName.isAdmitted b = false ∧ b.isDigit = false ∧ b ≠ '@' ∧ b ≠ ':' ∧ b ≠ ']' := by
  have hall : ∀ n ∈ List.range 0x21, (Char.ofNat n).toNat < 0x80 ∧ Hexadecimal.value? (Char.ofNat n) = none ∧
      HostName.replace (Char.ofNat n) = [Char.ofNat n] ∧ HostName.isAdmitted (Char.ofNat n) = false ∧
      (Char.ofNat n).isDigit = false ∧ Char.ofNat n ≠ '@' ∧ Char.ofNat n ≠ ':' ∧ Char.ofNat n ≠ ']' := by decide
  have hrange : b.toNat ≤ 0x20 := of_decide_eq_true hb
  have hkinds := hall b.toNat (List.mem_range.2 (by omega))
  rwa [Char.ofNat_toNat] at hkinds

private theorem webHost_concat (hb : isOuterBlank b = true) : webHost (ds ++ [b]) = .error .name := by
  obtain ⟨hascii, hvalue, hreplace, hadmitted, -⟩ := kinds_of_blank hb
  have hnone : (Percent.decode? (String.ofList (ds ++ [b]))).bind (fun s => HostName.ofChars? s.toList) = none := by
    cases hs : Percent.decode? (String.ofList (ds ++ [b])) with
    | none => rfl
    | some s =>
      have hmem := Percent.mem_of_decode? hvalue hascii hs
      have hall : (s.toList.flatMap HostName.replace).all HostName.isAdmitted = false := by
        refine List.all_eq_false.2 ⟨b, List.mem_flatMap.2 ⟨b, hmem, ?_⟩, ?_⟩
        · rw [hreplace]
          exact List.mem_cons_self
        · simp [hadmitted]
      rw [Option.bind_some, HostName.ofChars?]
      simp [hall]
  rw [webHost, hnone]

private theorem bracketed_concat (hb : isOuterBlank b = true) (h : Host) : bracketed webHost (ds ++ [b]) ≠ .ok h := by
  obtain ⟨-, -, -, -, -, -, -, hbracket⟩ := kinds_of_blank hb
  intro hok
  rw [bracketed.eq_def] at hok
  split at hok
  · rename_i inner heq
    have hlast : inner.getLast? ≠ some ']' := by
      intro hlast
      have hend := congrArg List.getLast? heq
      rw [List.getLast?_concat, List.getLast?_cons, hlast] at hend
      exact hbracket (Option.some.inj hend)
    rw [if_neg hlast] at hok
    cases hok
  · rw [webHost_concat hb] at hok
    cases hok

private theorem splitPort_append {inBrackets : Bool} :
    (splitPort inBrackets cs).1 ++ ((splitPort inBrackets cs).2.map (':' :: ·)).getD [] = cs := by
  induction cs generalizing inBrackets with
  | nil => rfl
  | cons c cs ih =>
    rw [splitPort]
    split
    · rename_i hc
      rw [(Bool.and_eq_true_iff.1 hc).1 |> of_decide_eq_true]
      rfl
    · exact congrArg (c :: ·) ih

/-- What is no colon at the end belongs to the port if there is one. -/
private theorem splitPort_concat (hb : b ≠ ':') : splitPort false (ds ++ [b]) = (ds ++ [b], none) ∨
    ∃ name p, splitPort false (ds ++ [b]) = (name, some p) ∧ b ∈ p ∧ p ⊆ ds ++ [b] := by
  have happend : (splitPort false (ds ++ [b])).1 ++ ((splitPort false (ds ++ [b])).2.map (':' :: ·)).getD [] =
      ds ++ [b] := splitPort_append
  generalize splitPort false (ds ++ [b]) = split at happend
  obtain ⟨name, _ | p⟩ := split
  · rw [Option.map_none, Option.getD_none, List.append_nil] at happend
    exact .inl (congrArg (·, none) happend)
  · rw [Option.map_some, Option.getD_some] at happend
    refine .inr ⟨name, p, rfl, ?_, fun c hc => ?_⟩
    · have hlast := congrArg List.getLast? happend
      rw [List.getLast?_concat, List.getLast?_append, List.getLast?_cons, Option.some_or] at hlast
      cases hend : p.getLast? with
      | none =>
        rw [hend] at hlast
        exact absurd (Option.some.inj hlast).symm hb
      | some d =>
        rw [hend] at hlast
        rw [← Option.some.inj hlast]
        exact List.mem_of_getLast? hend
    · exact happend ▸ List.mem_append_right _ (List.mem_cons_of_mem _ hc)

private theorem checkPort_ne_ok {p : List Char} (hb : b.isDigit = false) (hmem : b ∈ p) (hplain : ∀ c ∈ p, c ≠ '\\') :
    checkPort p ≠ .ok () := by
  have hwhole : p.takeWhile (· ≠ '\\') = p := List.takeWhile_eq_self_iff.2 fun c hc => decide_eq_true (hplain c hc)
  have hno : isPort p = false := by
    rw [isPort, List.all_eq_false.2 ⟨b, hmem, by simp [hb]⟩, Bool.false_and]
  rw [checkPort, hwhole, hno]
  intro h
  cases h

private theorem splitUser_concat (hb : b ≠ '@') : ∃ es, (splitUser (ds ++ [b])).2 = es ++ [b] ∧ es ⊆ ds := by
  rw [splitUser]
  split
  · refine ⟨(ds.reverse.takeWhile (· ≠ '@')).reverse, by simp [hb], fun c hc => ?_⟩
    exact List.mem_reverse.1 ((List.takeWhile_prefix _).subset (List.mem_reverse.1 hc))
  · exact ⟨ds, rfl, List.Subset.refl ds⟩

/-- In a scheme of the web, what stands behind the authority does not matter. -/
theorem authority_true : authority true cs =
    webAuthority (splitPort false (splitUser (cs.takeWhile (!endsAuthority true ·))).2).1
      (splitPort false (splitUser (cs.takeWhile (!endsAuthority true ·))).2).2 := by
  rw [authority]
  dsimp only
  split
  · rename_i hempty
    simp only [Bool.and_eq_true, List.isEmpty_iff] at hempty
    rw [hempty.1.2]
    rfl
  · rfl

/-- No host is read from an authority that ends in a blank. -/
theorem authority_ne_ok_of_blank (hb : isOuterBlank b = true) (h : cs.takeWhile (!endsAuthority true ·) = ds ++ [b]) :
    authority true cs ≠ .ok host := by
  obtain ⟨-, -, -, -, hdigit, huser, hcolon, -⟩ := kinds_of_blank hb
  have hplain : ∀ c ∈ ds ++ [b], c ≠ '\\' := by
    rintro c hc rfl
    rw [← h] at hc
    have hends := List.mem_takeWhile_imp hc
    cases hends
  obtain ⟨es, hes, hsub⟩ := splitUser_concat huser
  rw [authority_true, h, hes, webAuthority]
  intro hok
  split at hok
  · cases hok
  obtain ⟨name, hname, hok⟩ := exists_of_bind_ok hok
  obtain ⟨⟨⟩, hport, -⟩ := exists_of_bind_ok hok
  rcases splitPort_concat hcolon with hsplit | ⟨before, p, hsplit, hmem, hp⟩
  · rw [hsplit] at hname
    exact bracketed_concat hb name hname
  · rw [hsplit] at hport
    refine checkPort_ne_ok hdigit hmem (fun c hc => hplain c ?_) hport
    rcases List.mem_append.1 (hp hc) with hc | hc
    · exact List.mem_append_left _ (hsub hc)
    · exact List.mem_append_right _ hc

end Url

end Signpost.Web
