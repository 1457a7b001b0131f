import Signpost.Endpoint.Location
import Signpost.Proofs.Web.Hosts

/-!
# Locations that are written again

A location can be written as its scheme, its authority and its path with a slash at both ends.  The authority and the
path are cut out of the text behind the first `://`, but a URL of the web may be without these slashes, and the blanks at
its ends are dropped only where it is read.  Where the slashes stand behind the scheme, the host is read from what is cut
out, up to blanks at the end (`hostText_rdropWhile`).  So the location comes back (`rebuilds_iff`).  Where they do not,
other slashes may be found, or none.
-/

namespace Signpost

open Web.Url (significant isOuterBlank isSlash endsAuthority splitScheme? asksQuery)

/-! ### Cutting lists -/

section

variable {α : Type} {p : α → Bool} {c : α} {xs ys : List α}

private theorem dropWhile_append_cons (h : p c = false) : (xs ++ c :: ys).dropWhile p = xs.dropWhile p ++ c :: ys := by
  rw [List.dropWhile_append]
  split
  · rename_i hnil
    rw [List.isEmpty_iff.1 hnil, List.dropWhile_cons_of_neg (by simp [h]), List.nil_append]
  · rfl

private theorem takeWhile_append_cons (h : p c = false) : (xs ++ c :: ys).takeWhile p = xs.takeWhile p := by
  rw [List.takeWhile_append]
  split
  · rename_i hlength
    rw [List.takeWhile_cons_of_neg (by simp [h]), List.append_nil]
    exact ((List.takeWhile_prefix p).eq_of_length hlength).symm
  · rfl

private theorem rdropWhile_append_cons (h : p c = false) :
    (xs ++ c :: ys).rdropWhile p = xs ++ c :: ys.rdropWhile p := by
  rw [List.rdropWhile, List.rdropWhile, List.reverse_append, List.reverse_cons, List.append_assoc,
    List.singleton_append, dropWhile_append_cons h]
  simp

private theorem notMem_takeWhile [DecidableEq α] : c ∉ xs.takeWhile (· ≠ c) := by
  intro hmem
  have hne := List.mem_takeWhile_imp hmem
  simp at hne

end

namespace Web.Url

variable {cs before after rest : List Char} {scheme : String}

/-! ### Schemes -/

/-- Whether a character counts wherever it stands in a URL: tabs and line ends do not. -/
def counts (c : Char) : Bool := c != '\t' && c != '\n' && c != '\r'

theorem significant_eq : significant cs = ((cs.dropWhile isOuterBlank).rdropWhile isOuterBlank).filter counts := rfl

theorem significant_append : significant (before ++ ':' :: '/' :: '/' :: after) =
    (before.dropWhile isOuterBlank).filter counts ++
      ':' :: '/' :: '/' :: (after.rdropWhile isOuterBlank).filter counts := by
  have hcolon : isOuterBlank ':' = false := rfl
  have hslashes : ('/' :: '/' :: after).rdropWhile isOuterBlank = '/' :: '/' :: after.rdropWhile isOuterBlank := by
    have hslash : isOuterBlank '/' = false := rfl
    change (['/'] ++ '/' :: after).rdropWhile isOuterBlank = ['/'] ++ '/' :: after.rdropWhile isOuterBlank
    exact rdropWhile_append_cons hslash
  rw [significant_eq, dropWhile_append_cons hcolon, rdropWhile_append_cons hcolon, hslashes, List.filter_append]
  rfl

/-- What stands before the colon of the scheme has no other one. -/
theorem exists_of_splitScheme? (h : splitScheme? cs = some (scheme, rest)) : ∃ w, cs = w ++ ':' :: rest ∧ ':' ∉ w := by
  rw [splitScheme?] at h
  split at h
  · rename_i c cs' rest' htake hdrop
    split at h
    · cases h
      refine ⟨c :: cs', ?_, fun hmem => ?_⟩
      · rw [← htake, ← hdrop, List.takeWhile_append_dropWhile]
      · rw [← htake] at hmem
        cases List.mem_takeWhile_imp hmem
    · cases h
  · cases h

/-- Two slashes behind the first colon belong to what follows the scheme. -/
theorem rest_of_splitScheme? (hbefore : ':' ∉ before)
    (h : splitScheme? (significant (before ++ ':' :: '/' :: '/' :: after)) = some (scheme, rest)) :
    rest = '/' :: '/' :: (after.rdropWhile isOuterBlank).filter counts := by
  obtain ⟨w, hw, hplain⟩ := exists_of_splitScheme? h
  have hbefore' : ':' ∉ (before.dropWhile isOuterBlank).filter counts := fun hmem =>
    hbefore ((List.dropWhile_suffix _).subset (List.mem_of_mem_filter hmem))
  rw [significant_append] at hw
  -- both sides are cut at their first colon
  have hdrop := congrArg (List.dropWhile (· ≠ ':')) hw
  have hcut : ∀ {xs ys : List Char}, ':' ∉ xs → (xs ++ ':' :: ys).dropWhile (· ≠ ':') = ':' :: ys := by
    intro xs ys hxs
    rw [List.dropWhile_append_of_pos fun c hc => decide_eq_true (ne_of_mem_of_not_mem hc hxs)]
    rfl
  rw [hcut hbefore', hcut hplain] at hdrop
  exact (List.cons.inj hdrop).2.symm

/-! ### Queries -/

private theorem asksQuery_append {xs ys : List Char} (h : '#' ∉ xs) : asksQuery (xs ++ '?' :: ys) = true := by
  rw [asksQuery, decide_eq_true_iff]
  induction xs with
  | nil => rfl
  | cons x xs ih =>
    obtain ⟨hx, hxs⟩ := not_or.1 (mt List.mem_cons.2 h)
    rw [List.cons_append, List.find?_cons]
    split
    · rename_i hends
      simp only [Bool.or_eq_true, beq_iff_eq, Ne.symm hx, or_false] at hends
      rw [hends]
    · exact ih hxs

/-- A query is asked for by a question mark that stands before any number sign. -/
theorem asksQuery_slashes {xs ys : List Char} (h : '#' ∉ xs) :
    asksQuery ('/' :: '/' :: (xs ++ '?' :: ys).filter counts) = true := by
  have hmark : counts '?' = true := rfl
  have hxs : '#' ∉ '/' :: '/' :: xs.filter counts := by simp [h]
  rw [List.filter_append, List.filter_cons_of_pos hmark, ← List.cons_append, ← List.cons_append]
  exact asksQuery_append hxs

theorem asksQuery_of_not_mem {xs : List Char} (h : '?' ∉ xs) : asksQuery xs = false :=
  decide_eq_false fun hfind => h (List.mem_of_find?_eq_some hfind)

/-! ### Hosts -/

/-- The text that the host is read from, given what stands behind the colon of the scheme. -/
def hostText (cs : List Char) : List Char :=
  ((cs.filter counts).dropWhile isSlash).takeWhile (!endsAuthority true ·)

private theorem takeWhile_hostText : (hostText cs).takeWhile (!endsAuthority true ·) = hostText cs := by
  refine List.takeWhile_eq_self_iff.2 fun c hc => ?_
  exact List.mem_takeWhile_imp (p := fun c => !endsAuthority true c) hc

theorem authority_hostText :
    authority true ((cs.filter counts).dropWhile isSlash) = authority true (hostText cs) := by
  rw [authority_true, authority_true, takeWhile_hostText, hostText]

/-- A number sign ends the text. -/
theorem hostText_takeWhile : hostText (cs.takeWhile (· ≠ '#')) = hostText cs := by
  have hslash : isSlash '#' = false := rfl
  have hcs := List.takeWhile_append_dropWhile (p := (· ≠ '#')) (l := cs)
  cases hdrop : cs.dropWhile (· ≠ '#') with
  | nil =>
    rw [hdrop, List.append_nil] at hcs
    rw [hcs]
  | cons c rest =>
    obtain rfl : c = '#' := by
      have hc := List.head?_dropWhile_not (· ≠ '#') cs
      rw [hdrop] at hc
      simpa using hc
    rw [hdrop] at hcs
    conv_rhs => rw [← hcs, hostText, List.filter_append, List.filter_cons_of_pos (by rfl), dropWhile_append_cons hslash,
      takeWhile_append_cons (p := fun c => !endsAuthority true c) rfl]
    rfl

/-- One more slash makes no difference. -/
theorem hostText_concat : hostText (cs ++ ['/']) = hostText cs := by
  have hfilter : ['/'].filter counts = ['/'] := rfl
  rw [hostText, hostText, List.filter_append, hfilter, List.dropWhile_append]
  split
  · rename_i hnil
    rw [List.isEmpty_iff.1 hnil]
    rfl
  · exact takeWhile_append_cons (p := fun c => !endsAuthority true c) rfl

private theorem kinds_of_outerBlank {c : Char} (hc : isOuterBlank c = true) :
    isSlash c = false ∧ (!endsAuthority true c) = true := by
  have hall : ∀ n ∈ List.range 0x21, isSlash (Char.ofNat n) = false ∧ (!endsAuthority true (Char.ofNat n)) = true := by
    decide
  have hrange : c.toNat ≤ 0x20 := of_decide_eq_true hc
  have hkinds := hall c.toNat (List.mem_range.2 (by omega))
  rwa [Char.ofNat_toNat] at hkinds

/-- Blanks at the end only count if nothing ended the text before, so that it ends in one of them. -/
private theorem hostText_append {blanks : List Char} (h : ∀ c ∈ blanks, isOuterBlank c = true) :
    hostText (cs ++ blanks) = hostText cs ∨ (hostText (cs ++ blanks)).getLast?.any isOuterBlank = true := by
  rw [hostText, List.filter_append]
  have hfilter : ∀ c ∈ blanks.filter counts, isOuterBlank c = true := fun c hc => h c (List.mem_of_mem_filter hc)
  generalize blanks.filter counts = kept at hfilter
  cases kept with
  | nil =>
    rw [List.append_nil]
    exact .inl rfl
  | cons c kept =>
    have hall : (c :: kept).takeWhile (!endsAuthority true ·) = c :: kept :=
      List.takeWhile_eq_self_iff.2 fun d hd => (kinds_of_outerBlank (hfilter d hd)).2
    rw [dropWhile_append_cons (kinds_of_outerBlank (hfilter c List.mem_cons_self)).1, List.takeWhile_append, hall]
    split
    · refine .inr ?_
      have hlast := List.getLast_mem (List.cons_ne_nil c kept)
      rw [List.getLast?_append, List.getLast?_eq_some_getLast (List.cons_ne_nil c kept), Option.some_or,
        Option.any_some]
      exact hfilter _ hlast
    · exact .inl rfl

/-- Without the blanks at the end the text is the same, unless it ends in one of them. -/
theorem hostText_rdropWhile (h : (hostText cs).getLast?.any isOuterBlank = false) :
    hostText (cs.rdropWhile isOuterBlank) = hostText cs := by
  have hcs := List.rdropWhile_append_rtakeWhile (p := isOuterBlank) (l := cs)
  have hblanks : ∀ c ∈ cs.rtakeWhile isOuterBlank, isOuterBlank c = true := fun c hc => List.mem_rtakeWhile_imp hc
  have happend : hostText (cs.rdropWhile isOuterBlank ++ cs.rtakeWhile isOuterBlank) =
      hostText (cs.rdropWhile isOuterBlank) ∨ _ := hostText_append hblanks
  rw [hcs] at happend
  rcases happend with heq | hlast
  · exact heq.symm
  · rw [h] at hlast
    cases hlast

theorem authority_hostText_ne_ok {host : Option Host} (h : (hostText cs).getLast?.any isOuterBlank = true) :
    authority true (hostText cs) ≠ .ok host := by
  cases hlast : (hostText cs).getLast? with
  | none =>
    rw [hlast] at h
    cases h
  | some b =>
    rw [hlast] at h
    obtain ⟨ds, hds⟩ := List.getLast?_eq_some_iff.1 hlast
    exact authority_ne_ok_of_blank h (takeWhile_hostText.trans hds)

end Web.Url

namespace Location

open Web.Url (counts hostText)

variable {s : String} {u : Location} {before after : List Char}

/-! ### What is cut out of a text -/

/-- What is taken for the authority and the path, as it is written. -/
def written (s : String) : List Char := (afterSlashes s.toList).takeWhile (· ≠ '#')

/-- Whether the first colon has two slashes behind it, as the text is written. -/
def isDirect (s : String) : Bool := (s.toList.dropWhile (· ≠ ':')).take 3 = [':', '/', '/']

theorem afterSlashes_append (h : ':' ∉ before) : afterSlashes (before ++ ':' :: '/' :: '/' :: after) = after := by
  induction before with
  | nil => rfl
  | cons c before ih =>
    obtain ⟨hc, hbefore⟩ := not_or.1 (mt List.mem_cons.2 h)
    rw [List.cons_append, afterSlashes.eq_2]
    · exact ih hbefore
    · rintro cs hcs -
      exact hc hcs.symm

theorem exists_of_isDirect (h : isDirect s = true) :
    ∃ before, s.toList = before ++ ':' :: '/' :: '/' :: afterSlashes s.toList ∧ ':' ∉ before := by
  have htake := of_decide_eq_true h
  have hplain : ':' ∉ s.toList.takeWhile (· ≠ ':') := notMem_takeWhile
  have hs : s.toList.takeWhile (· ≠ ':') ++ ':' :: '/' :: '/' :: (s.toList.dropWhile (· ≠ ':')).drop 3 = s.toList := by
    conv_rhs => rw [← List.takeWhile_append_dropWhile (p := (· ≠ ':')) (l := s.toList),
      ← List.take_append_drop 3 (s.toList.dropWhile (· ≠ ':')), htake]
    rfl
  have hafter : afterSlashes (_ ++ ':' :: '/' :: '/' :: (s.toList.dropWhile (· ≠ ':')).drop 3) = _ :=
    afterSlashes_append hplain
  rw [hs] at hafter
  exact ⟨s.toList.takeWhile (· ≠ ':'), by rw [hafter, hs], hplain⟩

/-- The location of a text with this scheme and this host. -/
def cut (s scheme : String) (host : Option Web.Host) : Location where
  scheme := scheme
  authority := String.ofList ((written s).takeWhile (· ≠ '/'))
  path := String.ofList ((written s).dropWhile (· ≠ '/'))
  normalizedPath := String.ofList (normalize ((written s).dropWhile (· ≠ '/')))
  isIp := host.any Web.Host.isAddress

/-- A text is read as a location if it has a scheme of the web, no query and a host. -/
theorem ofText_ok_iff : ofText s = .ok u ↔ ∃ scheme rest host,
    splitScheme? (significant s.toList) = some (scheme, rest) ∧ (scheme = "http" ∨ scheme = "https") ∧
      asksQuery rest = false ∧ Web.Url.authority true (rest.dropWhile isSlash) = .ok host ∧ u = cut s scheme host := by
  have hkind : ∀ scheme, scheme = "http" ∨ scheme = "https" → Web.SchemeKind.of scheme = .web := by
    rintro scheme (rfl | rfl) <;> decide
  constructor
  · intro h
    obtain ⟨url, hurl, h⟩ := exists_of_bind_ok h
    have hurl := ok_of_mapError_ok hurl
    rw [Web.Url.ofText] at hurl
    split at hurl
    · cases hurl
    rename_i scheme rest hsplit
    obtain ⟨host, hhost, hurl⟩ := exists_of_bind_ok hurl
    cases hurl
    dsimp only at h
    by_cases hquery : asksQuery rest = true
    · rw [if_pos hquery] at h
      cases h
    rw [if_neg hquery] at h
    by_cases hscheme : scheme ≠ "http" ∧ scheme ≠ "https"
    · rw [if_pos hscheme] at h
      cases h
    rw [if_neg hscheme] at h
    have hweb : scheme = "http" ∨ scheme = "https" := by
      by_contra hno
      exact hscheme (not_or.1 hno)
    rw [hkind scheme hweb] at hhost
    cases h
    exact ⟨scheme, rest, host, hsplit, hweb, Bool.eq_false_iff.2 hquery, hhost, rfl⟩
  · rintro ⟨scheme, rest, host, hsplit, hweb, hquery, hhost, rfl⟩
    have hurl : Web.Url.ofText s = .ok ⟨scheme, host, false⟩ := by
      rw [Web.Url.ofText, hsplit]
      dsimp only
      rw [hkind scheme hweb, Web.Url.hostOf, hhost, hquery]
      rfl
    have hscheme : ¬ (scheme ≠ "http" ∧ scheme ≠ "https") := by
      rintro ⟨hhttp, hhttps⟩
      exact hweb.elim hhttp hhttps
    rw [ofText, hurl, Except.mapError, ok_bind]
    dsimp only
    rw [if_neg Bool.false_ne_true, if_neg hscheme]
    rfl

/-! ### Paths -/

theorem exists_normalize (path : List Char) :
    ∃ cs, normalize path = '/' :: cs ∧ ('/' :: cs).getLast? = some '/' ∧ normalize ('/' :: cs) = '/' :: cs := by
  have hfixed : ∀ cs, ('/' :: cs).getLast? = some '/' → normalize ('/' :: cs) = '/' :: cs := by
    intro cs hlast
    rw [normalize, List.head?_cons, if_pos rfl]
    exact if_pos hlast
  have hslash : ∃ cs, (if path.head? = some '/' then path else '/' :: path) = '/' :: cs := by
    split
    · rename_i hhead
      obtain ⟨cs, rfl⟩ := List.head?_eq_some_iff.1 hhead
      exact ⟨cs, rfl⟩
    · exact ⟨path, rfl⟩
  obtain ⟨cs, hcs⟩ := hslash
  rw [normalize, hcs]
  split
  · rename_i hlast
    exact ⟨cs, rfl, hlast, hfixed cs hlast⟩
  · have hlast : ('/' :: (cs ++ ['/'])).getLast? = some '/' := by rw [← List.cons_append, List.getLast?_concat]
    exact ⟨cs ++ ['/'], rfl, hlast, hfixed _ hlast⟩

/-- What is written again differs from what was written by a slash at the end at most. -/
theorem append_normalize (cs : List Char) :
    cs.takeWhile (· ≠ '/') ++ normalize (cs.dropWhile (· ≠ '/')) = cs ∨
      cs.takeWhile (· ≠ '/') ++ normalize (cs.dropWhile (· ≠ '/')) = cs ++ ['/'] := by
  have hcs : cs.takeWhile (· ≠ '/') ++ cs.dropWhile (· ≠ '/') = cs := List.takeWhile_append_dropWhile
  have hhead := List.head?_dropWhile_not (· ≠ '/') cs
  generalize cs.dropWhile (· ≠ '/') = path at hcs hhead
  cases path with
  | nil =>
    rw [List.append_nil] at hcs
    rw [hcs]
    exact .inr rfl
  | cons c path =>
    obtain rfl : c = '/' := by simpa using hhead
    rw [normalize, List.head?_cons, if_pos rfl]
    split
    · exact .inl hcs
    · rw [← List.append_assoc, hcs]
      exact .inr rfl

/-! ### Writing locations again -/

/-- The URL that is written again from the parts. -/
def rebuilt (u : Location) : String := u.scheme ++ "://" ++ u.authority ++ u.normalizedPath

/-- Whether that URL is read as a location with the same scheme, authority, path and kind of host. -/
def Rebuilds (u : Location) : Prop := ∃ v, ofText u.rebuilt = .ok v ∧ v.scheme = u.scheme ∧
  v.authority = u.authority ∧ v.normalizedPath = u.normalizedPath ∧ v.isIp = u.isIp

section

variable {r scheme : String} {xs : List Char} {host : Option Web.Host}

private theorem colon_notMem (hscheme : scheme = "http" ∨ scheme = "https") : ':' ∉ scheme.toList := by
  rcases hscheme with rfl | rfl <;> decide

private theorem written_eq (hscheme : scheme = "http" ∨ scheme = "https")
    (hr : r.toList = scheme.toList ++ ':' :: '/' :: '/' :: xs) (hplain : '#' ∉ xs) : written r = xs := by
  rw [written, hr, afterSlashes_append (colon_notMem hscheme)]
  exact List.takeWhile_eq_self_iff.2 fun c hc => decide_eq_true (ne_of_mem_of_not_mem hc hplain)

/-- A text of a scheme, two slashes and what ends in another one is a location if there is a host and no query. -/
private theorem ofText_web_iff (hscheme : scheme = "http" ∨ scheme = "https")
    (hr : r.toList = scheme.toList ++ ':' :: '/' :: '/' :: xs) (hlast : xs.getLast? = some '/') (hplain : '#' ∉ xs) :
    ofText r = .ok u ↔ '?' ∉ xs ∧ ∃ host, Web.Url.authority true (hostText xs) = .ok host ∧ u = cut r scheme host := by
  have hslash : isOuterBlank '/' = false := rfl
  have htrim : xs.rdropWhile isOuterBlank = xs := by
    obtain ⟨ys, rfl⟩ := List.getLast?_eq_some_iff.1 hlast
    exact List.rdropWhile_concat_neg _ _ _ (by simp [hslash])
  have hsplit : splitScheme? (significant r.toList) = some (scheme, '/' :: '/' :: xs.filter counts) := by
    rw [hr, Web.Url.significant_append, htrim]
    rcases hscheme with rfl | rfl <;> rfl
  have hquery : asksQuery ('/' :: '/' :: xs.filter counts) = false ↔ '?' ∉ xs := by
    refine ⟨fun hno hmem => ?_, fun hmem => Web.Url.asksQuery_of_not_mem (by simp [hmem])⟩
    obtain ⟨ys, zs, rfl⟩ := List.append_of_mem hmem
    rw [Web.Url.asksQuery_slashes fun hys => hplain (List.mem_append_left _ hys)] at hno
    cases hno
  have hhost : Web.Url.authority true (('/' :: '/' :: xs.filter counts).dropWhile isSlash) =
      Web.Url.authority true (hostText xs) := Web.Url.authority_hostText
  rw [ofText_ok_iff]
  constructor
  · rintro ⟨scheme', rest, host, hsplit', -, hasks, hok, rfl⟩
    rw [hsplit] at hsplit'
    cases hsplit'
    exact ⟨hquery.1 hasks, host, hhost.symm.trans hok, rfl⟩
  · rintro ⟨hasks, host, hok, rfl⟩
    exact ⟨scheme, _, host, hsplit, hscheme, hquery.2 hasks, hhost.trans hok, rfl⟩

private theorem cut_eq {authority path : List Char} (hr : written r = authority ++ '/' :: path)
    (hauthority : '/' ∉ authority) (hpath : normalize ('/' :: path) = '/' :: path) : cut r scheme host =
      ⟨scheme, String.ofList authority, String.ofList ('/' :: path), String.ofList ('/' :: path),
        host.any Web.Host.isAddress⟩ := by
  have hslash : decide ('/' ≠ '/') = false := rfl
  have hall : ∀ c ∈ authority, decide (c ≠ '/') = true := fun c hc =>
    decide_eq_true (ne_of_mem_of_not_mem hc hauthority)
  rw [cut, hr, takeWhile_append_cons (p := (· ≠ '/')) hslash, dropWhile_append_cons (p := (· ≠ '/')) hslash,
    List.takeWhile_eq_self_iff.2 hall, List.dropWhile_eq_nil_iff.2 hall, List.nil_append, hpath]

/-- A location is written again as one with these parts if there is no query in the path and a host of the same kind. -/
theorem rebuilds_cut_iff (hscheme : scheme = "http" ∨ scheme = "https") : (cut s scheme host).Rebuilds ↔
    '?' ∉ written s ∧ ∃ host', Web.Url.authority true (hostText (written s)) = .ok host' ∧
      host'.any Web.Host.isAddress = host.any Web.Host.isAddress := by
  obtain ⟨path, hnormal, hlast, hfixed⟩ := exists_normalize ((written s).dropWhile (· ≠ '/'))
  have happend := append_normalize (written s)
  rw [hnormal] at happend
  have hplain : '#' ∉ written s := notMem_takeWhile
  have hslash : '/' ∉ (written s).takeWhile (· ≠ '/') := notMem_takeWhile
  have hr : (cut s scheme host).rebuilt.toList =
      scheme.toList ++ ':' :: '/' :: '/' :: ((written s).takeWhile (· ≠ '/') ++ '/' :: path) := by
    have hseparator : "://".toList = [':', '/', '/'] := rfl
    simp only [rebuilt, cut, hnormal, hseparator, String.toList_append, String.toList_ofList, List.append_assoc,
      List.cons_append, List.nil_append]
  -- what is written again is what was written, but for a slash
  have hkept : '#' ∉ (written s).takeWhile (· ≠ '/') ++ '/' :: path ∧
      ('?' ∈ (written s).takeWhile (· ≠ '/') ++ '/' :: path ↔ '?' ∈ written s) ∧
      hostText ((written s).takeWhile (· ≠ '/') ++ '/' :: path) = hostText (written s) := by
    rcases happend with heq | heq
    · rw [heq]
      exact ⟨hplain, Iff.rfl, rfl⟩
    · rw [heq]
      exact ⟨by simpa using hplain, by simp, Web.Url.hostText_concat⟩
  have hread : ∀ v, ofText (cut s scheme host).rebuilt = .ok v ↔ _ := fun v =>
    ofText_web_iff hscheme hr (by rw [List.getLast?_append, hlast, Option.some_or]) hkept.1
  rw [hkept.2.1, hkept.2.2] at hread
  have hcut : ∀ host', cut (cut s scheme host).rebuilt scheme host' = _ := fun host' =>
    cut_eq (written_eq hscheme hr hkept.1) hslash hfixed
  constructor
  · rintro ⟨v, hv, -, -, -, hkind⟩
    obtain ⟨hquery, host', hok, rfl⟩ := (hread v).1 hv
    exact ⟨hquery, host', hok, hkind⟩
  · rintro ⟨hquery, host', hok, hkind⟩
    refine ⟨_, (hread _).2 ⟨hquery, host', hok, rfl⟩, rfl, ?_, ?_, hkind⟩
    · rw [hcut]
      rfl
    · rw [hcut, cut, hnormal]

end

/-- A text that asks for no query has no question mark in its authority and its path: there it would stand before any
number sign, and it is not dropped with the blanks at the end. -/
private theorem mark_notMem_written
    (h : asksQuery ('/' :: '/' :: ((afterSlashes s.toList).rdropWhile isOuterBlank).filter counts) = false) :
    '?' ∉ written s := by
  intro hmem
  obtain ⟨xs, ys, hxs⟩ := List.append_of_mem hmem
  have hafter : afterSlashes s.toList = xs ++ '?' :: (ys ++ (afterSlashes s.toList).dropWhile (· ≠ '#')) := by
    conv_lhs => rw [← List.takeWhile_append_dropWhile (p := (· ≠ '#')) (l := afterSlashes s.toList)]
    rw [← written, hxs, List.append_assoc, List.cons_append]
  have hplain : '#' ∉ xs := fun hmem => notMem_takeWhile (hxs ▸ List.mem_append_left _ hmem)
  rw [hafter, rdropWhile_append_cons (by decide), Web.Url.asksQuery_slashes hplain] at h
  cases h

/-- A location comes back when it is written again exactly if the first colon of the text has two slashes behind it, and
no blank is left at the end of the authority; or, where the slashes are missing, if what stands behind later ones asks
for no query and happens to be read as a host of the same kind. -/
theorem rebuilds_iff (h : ofText s = .ok u) : u.Rebuilds ↔
    (isDirect s = true ∧ (hostText (written s)).getLast?.any isOuterBlank = false) ∨
      (isDirect s = false ∧ '?' ∉ written s ∧ ∃ host, Web.Url.authority true (hostText (written s)) = .ok host ∧
        host.any Web.Host.isAddress = u.isIp) := by
  obtain ⟨scheme, rest, host, hsplit, hscheme, hquery, hhost, rfl⟩ := ofText_ok_iff.1 h
  rw [rebuilds_cut_iff hscheme]
  cases hdirect : isDirect s with
  | false => simp [cut]
  | true =>
    obtain ⟨before, hs, hplain⟩ := exists_of_isDirect hdirect
    rw [hs] at hsplit
    obtain rfl := Web.Url.rest_of_splitScheme? hplain hsplit
    have htext : hostText (written s) = hostText (afterSlashes s.toList) := Web.Url.hostText_takeWhile
    have hread : Web.Url.authority true (hostText ((afterSlashes s.toList).rdropWhile isOuterBlank)) = .ok host :=
      Web.Url.authority_hostText.symm.trans hhost
    rw [htext]
    constructor
    · rintro ⟨-, host', hok, -⟩
      exact .inl ⟨rfl, Bool.eq_false_iff.2 fun hlast => Web.Url.authority_hostText_ne_ok hlast hok⟩
    · rintro (⟨-, hlast⟩ | ⟨hfalse, -⟩)
      · rw [Web.Url.hostText_rdropWhile hlast] at hread
        exact ⟨mark_notMem_written hquery, host, hread, rfl⟩
      · cases hfalse

theorem rebuilds_iff_bracketed :
    (∃ u, ofText "https://[::1]" = .ok u ∧ u.Rebuilds) ∧ ∃ u, ofText "https:[::1]" = .ok u ∧ ¬ u.Rebuilds := by
  have hok : (ofText "https://[::1]").isOk = true ∧ (ofText "https:[::1]").isOk = true := by decide +kernel
  obtain ⟨⟨u, hu⟩, v, hv⟩ := And.intro (exists_of_isOk hok.1) (exists_of_isOk hok.2)
  have hdirect : isDirect "https:[::1]" = false ∧ hostText (written "https:[::1]") = [] := by decide +kernel
  refine ⟨⟨u, hu, (rebuilds_iff hu).2 (.inl (by decide +kernel))⟩, v, hv, fun hno => ?_⟩
  rcases (rebuilds_iff hv).1 hno with ⟨htrue, -⟩ | ⟨-, -, host, hhost, -⟩
  · rw [hdirect.1] at htrue
    cases htrue
  · rw [hdirect.2] at hhost
    cases hhost

end Location

end Signpost
