import Mathlib.Data.List.Basic
import Mathlib.Data.List.TakeWhile
import Mathlib.Tactic.SplitIfs
import ScreenKeyboard.Proofs.Hosts

/-!
What becomes of a host and a port that are pasted into the text of an address. The host is seen without tabs,
line ends and leading slashes; the scheme is the one that was pasted (`readRest_of_ok`). If nothing that is
seen of the host ends the authority, the port is the one that was pasted behind it; otherwise the text of
the host alone decides (`effectivePort_of_pasted`).
-/

namespace ScreenKeyboard.Url

open Text

/-! ### The text that counts -/

/-- Whether a character inside an address counts. -/
def counts (c : Char) : Bool :=
  c ≠ '\t' ∧ c ≠ '\n' ∧ c ≠ '\r'

/-- What an address sees of a text that stands where its host begins. -/
def seen (host : List Char) : List Char :=
  (host.filter counts).dropWhile isSlash

theorem dropWhile_append_of_neg {p : Char → Bool} {c : Char} (hc : p c = false) (front back : List Char) :
    (front ++ c :: back).dropWhile p = front.dropWhile p ++ c :: back := by
  rw [List.dropWhile_append]
  split_ifs with hempty
  · rw [List.isEmpty_iff.mp hempty, List.nil_append,
      List.dropWhile_cons_of_neg (by rw [hc]; exact Bool.false_ne_true)]
  · rfl

theorem trim_framed {p : Char → Bool} {first last : Char} (hfirst : p first = false) (hlast : p last = false)
    (front back : List Char) :
    trim p (first :: front ++ last :: back) =
      first :: front ++ last :: (back.reverse.dropWhile p).reverse := by
  have hreverse : (first :: front ++ last :: back).reverse =
      back.reverse ++ last :: (first :: front).reverse := by simp
  rw [trim, List.cons_append, List.dropWhile_cons_of_neg (by rw [hfirst]; exact Bool.false_ne_true),
    ← List.cons_append, hreverse, dropWhile_append_of_neg hlast]
  simp

theorem filter_counts_toDigits (n : Nat) : (Nat.toDigits 10 n).filter counts = Nat.toDigits 10 n := by
  rw [List.filter_eq_self]
  intro c hc
  have hdigit := isDigit_of_mem_toDigits hc
  exact decide_eq_true ⟨ne_of_test hdigit rfl, ne_of_test hdigit rfl, ne_of_test hdigit rfl⟩

theorem Scheme.name_spec (scheme : Scheme) :
    ∃ rest, scheme.name.toList = 'w' :: rest ∧ ∀ c ∈ 'w' :: rest, c ≠ ':' ∧ counts c = true := by
  cases scheme with
  | ws => exact ⟨['s'], rfl, by simp [counts]⟩
  | wss => exact ⟨['s', 's'], rfl, by simp [counts]⟩

/-- A text that begins with a scheme is read as an address of that scheme. -/
theorem read_of_significant {text : String} (scheme : Scheme) (rest : List Char)
    (h : significant text.toList = scheme.name.toList ++ ':' :: rest) :
    read text = readRest scheme (rest.dropWhile isSlash) := by
  obtain ⟨letters, hname, hletters⟩ := scheme.name_spec
  have hscheme : (scheme.name.toList ++ ':' :: rest).takeWhile (· ≠ ':') = scheme.name.toList := by
    rw [List.takeWhile_append_of_pos, List.takeWhile_cons_of_neg (by decide), List.append_nil]
    intro c hc
    rw [hname] at hc
    exact decide_eq_true (hletters c hc).1
  have hrest : (scheme.name.toList ++ ':' :: rest).drop (scheme.name.toList.length + 1) = rest := by
    rw [List.drop_append, List.drop_eq_nil_of_le (Nat.le_succ _), Nat.add_sub_cancel_left]
    rfl
  have hlength : scheme.name.toList.length < (scheme.name.toList ++ ':' :: rest).length := by
    rw [List.length_append, List.length_cons]
    omega
  simp only [read, h, hscheme, hrest, hlength, and_true]
  cases scheme <;> rfl

/-- A host, a port and a path behind a scheme are read after what counts of them. -/
theorem read_pasted (scheme : Scheme) (host : List Char) (port : Nat) (path : List Char) :
    ∃ tail, read (String.ofList (scheme.name.toList ++ "://".toList ++ host ++ ':' :: Nat.toDigits 10 port
        ++ '/' :: path)) =
      readRest scheme (seen host ++ ':' :: Nat.toDigits 10 port ++ '/' :: tail) := by
  obtain ⟨letters, hname, hletters⟩ := scheme.name_spec
  refine ⟨((path.reverse.dropWhile (·.toNat ≤ 0x20)).reverse).filter counts, ?_⟩
  have hframed : scheme.name.toList ++ "://".toList ++ host ++ ':' :: Nat.toDigits 10 port ++ '/' :: path =
      'w' :: (letters ++ "://".toList ++ host ++ ':' :: Nat.toDigits 10 port) ++ '/' :: path := by
    rw [hname]
    simp
  have hsignificant : significant (scheme.name.toList ++ "://".toList ++ host ++ ':' :: Nat.toDigits 10 port
        ++ '/' :: path) =
      scheme.name.toList ++ ':' :: '/' :: '/' :: (host.filter counts ++ ':' :: Nat.toDigits 10 port
        ++ '/' :: ((path.reverse.dropWhile (·.toNat ≤ 0x20)).reverse).filter counts) := by
    have hkept : ('w' :: letters).filter counts = 'w' :: letters :=
      List.filter_eq_self.mpr fun c hc => (hletters c hc).2
    have hslashes : "://".toList.filter counts = [':', '/', '/'] := rfl
    have hcolon : counts ':' = true := rfl
    have hslash : counts '/' = true := rfl
    rw [significant, hframed, trim_framed (by decide) (by decide)]
    show List.filter counts _ = _
    rw [List.filter_append, List.filter_cons_of_pos hslash, ← List.cons_append, List.filter_append,
      ← List.cons_append, List.filter_append, ← List.cons_append, List.filter_append, hkept, hslashes,
      List.filter_cons_of_pos hcolon, filter_counts_toDigits, hname]
    simp
  have hcolon : isSlash ':' = false := rfl
  have hslash : isSlash '/' = true := rfl
  rw [read_of_significant scheme _ (by rw [String.toList_ofList]; exact hsignificant),
    List.dropWhile_cons_of_pos hslash, List.dropWhile_cons_of_pos hslash, List.append_assoc, List.cons_append,
    dropWhile_append_of_neg hcolon, seen, List.append_assoc, List.cons_append]

/-! ### The port -/

/-- The host and the port of an authority: what follows the user. -/
def placeOf (authority : List Char) : List Char :=
  match cutAtLast authority with
  | none => authority
  | some (_, place) => place

/-- The port that the text after a host asks for; without digits that is the scheme's own. -/
def portMeant (scheme : Scheme) : List Char → Nat
  | ':' :: digits => if digits.isEmpty then scheme.defaultPort else (number? 10 digits).getD 0
  | _ => scheme.defaultPort

/-- The port that an authority asks for. -/
def authorityPort (scheme : Scheme) (authority : List Char) : Nat :=
  portMeant scheme (cutHost false (placeOf authority)).2

theorem readPort_of_ok {scheme : Scheme} {text : List Char} {port : Option Nat}
    (h : readPort scheme text = .ok port) : port.getD scheme.defaultPort = portMeant scheme text := by
  unfold readPort at h
  split at h
  · next digits =>
      show _ = if digits.isEmpty then scheme.defaultPort else (number? 10 digits).getD 0
      cases hn : number? 10 digits with
      | none =>
          rw [hn] at h
          cases h
      | some n =>
          simp only [hn] at h
          split_ifs at h with hlarge hdefault
          · obtain rfl := Except.ok.inj h
            rcases hdefault with hempty | hown
            · rw [if_pos hempty, Option.getD_none]
            · rw [Option.getD_none, Option.getD_some, hown, ite_self]
          · obtain rfl := Except.ok.inj h
            rw [if_neg fun hempty => hdefault (Or.inl hempty), Option.getD_some, Option.getD_some]
  · next hnone =>
      obtain rfl := Except.ok.inj h
      unfold portMeant
      split
      · next digits => exact absurd rfl (hnone digits)
      · rfl

theorem ok_of_bind {ε α β : Type} {first : Except ε α} {next : α → Except ε β} {result : β}
    (h : first >>= next = .ok result) : ∃ value, first = .ok value ∧ next value = .ok result := by
  cases first with
  | error reason => cases h
  | ok value => exact ⟨value, rfl, h⟩

/-- What is read after a scheme is an address of that scheme, to the port that its authority asks for. -/
theorem readRest_of_ok {scheme : Scheme} {text : List Char} {url : Url} (h : readRest scheme text = .ok url) :
    url.scheme = scheme ∧
      (∃ host, readHost (cutHost false (placeOf (text.takeWhile (!endsAuthority ·)))).1 = .ok host) ∧
      readPort scheme (cutHost false (placeOf (text.takeWhile (!endsAuthority ·)))).2 = .ok url.port := by
  unfold readRest at h
  unfold placeOf
  rcases hcut : cutAtLast (text.takeWhile (!endsAuthority ·)) with _ | ⟨user, place⟩
  all_goals
    simp only [hcut] at h ⊢
    obtain ⟨host, hhost, hrest⟩ := ok_of_bind h
    obtain ⟨port, hport, hurl⟩ := ok_of_bind hrest
    obtain rfl := Except.ok.inj hurl
    exact ⟨rfl, ⟨host, hhost⟩, hport⟩

theorem cutHost_append (bracketed : Bool) (text : List Char) :
    (cutHost bracketed text).1 ++ (cutHost bracketed text).2 = text := by
  induction text generalizing bracketed with
  | nil => rfl
  | cons c rest ih =>
      rw [cutHost]
      split_ifs with hcut
      · rfl
      all_goals exact congrArg (c :: ·) (ih _)

/-- What follows a host begins with a colon, if there is anything. -/
theorem cutHost_snd (bracketed : Bool) (text : List Char) :
    (cutHost bracketed text).2 = [] ∨ ∃ rest, (cutHost bracketed text).2 = ':' :: rest := by
  induction text generalizing bracketed with
  | nil => exact Or.inl rfl
  | cons c rest ih =>
      rw [cutHost]
      split_ifs with hcut
      · exact Or.inr ⟨rest, congrArg (· :: rest) hcut.1⟩
      all_goals exact ih _

theorem takeWhile_append_of_not_mem {mark : Char} {front : List Char} (h : mark ∉ front) (back : List Char) :
    (front ++ back).takeWhile (· ≠ mark) = front ++ back.takeWhile (· ≠ mark) :=
  List.takeWhile_append_of_pos fun _ hc => decide_eq_true fun heq => h (heq ▸ hc)

/-- A port behind a text stays where it is when the user is cut off. -/
theorem placeOf_append {digits : List Char} (hdigits : '@' ∉ digits) (name : List Char) :
    placeOf (name ++ ':' :: digits) = (name.reverse.takeWhile (· ≠ '@')).reverse ++ ':' :: digits := by
  have hreverse : (name ++ ':' :: digits).reverse = (':' :: digits).reverse ++ name.reverse :=
    List.reverse_append
  have hport : '@' ∉ (':' :: digits).reverse := by
    rw [List.mem_reverse, List.mem_cons, not_or]
    exact ⟨by decide, hdigits⟩
  have hafter : ((name ++ ':' :: digits).reverse.takeWhile (· ≠ '@')).reverse =
      (name.reverse.takeWhile (· ≠ '@')).reverse ++ ':' :: digits := by
    rw [hreverse, takeWhile_append_of_not_mem hport, List.reverse_append, List.reverse_reverse]
  by_cases huser : '@' ∈ name ++ ':' :: digits
  · rw [placeOf, cutAtLast, if_pos (List.contains_iff_mem.mpr huser)]
    exact hafter
  · rw [placeOf, cutAtLast, if_neg (mt List.contains_iff_mem.mp huser), ← hafter]
    have hall := takeWhile_append_of_not_mem (mt List.mem_reverse.mp huser) []
    rw [List.append_nil, List.takeWhile_nil, List.append_nil] at hall
    rw [hall, List.reverse_reverse]

/-- A mark in the text after one that holds no such mark is at the same place or further to the left. -/
theorem eq_or_mem_of_append_eq {mark : Char} {front back left right : List Char} (hback : mark ∉ back)
    (h : left ++ mark :: right = front ++ mark :: back) : right = back ∨ mark ∈ right := by
  rcases List.append_eq_append_iff.mp h with ⟨between, -, hright⟩ | ⟨between, -, hright⟩
  · cases between with
    | nil => exact Or.inl (List.cons.inj hright).2
    | cons c between =>
        refine Or.inr ?_
        rw [(List.cons.inj hright).2]
        exact List.mem_append_right _ List.mem_cons_self
  · cases between with
    | nil => exact Or.inl (List.cons.inj hright).2.symm
    | cons c between =>
        refine absurd ?_ hback
        rw [(List.cons.inj hright).2]
        exact List.mem_append_right _ List.mem_cons_self

theorem readPort_of_colon (scheme : Scheme) {text : List Char} (h : ':' ∈ text) :
    readPort scheme (':' :: text) = .error .badPort := by
  rw [readPort, Text.number?, mapM_digit?_eq_none h rfl]
  rfl

/-- The port that was pasted behind a text is the port of the authority, if that is one at all. -/
theorem authorityPort_append {scheme : Scheme} {name : List Char} {port : Nat} {host : Host} {read : Option Nat}
    (hhost : readHost (cutHost false (placeOf (name ++ ':' :: Nat.toDigits 10 port))).1 = .ok host)
    (hport : readPort scheme (cutHost false (placeOf (name ++ ':' :: Nat.toDigits 10 port))).2 = .ok read) :
    authorityPort scheme (name ++ ':' :: Nat.toDigits 10 port) = port := by
  have hmark : ∀ {mark : Char}, mark.isDigit = false → mark ∉ Nat.toDigits 10 port :=
    fun hfalse hmem => ne_of_test (isDigit_of_mem_toDigits hmem) hfalse rfl
  rw [authorityPort]
  have hplace := placeOf_append (hmark rfl) name
  generalize placeOf (name ++ ':' :: Nat.toDigits 10 port) = place at hhost hport hplace
  have hparts := cutHost_append false place
  rcases cutHost_snd false place with hnone | ⟨rest, hrest⟩
  · -- the colon before the port is in brackets that were never closed
    rw [hnone, List.append_nil] at hparts
    rw [hparts, hplace] at hhost
    refine absurd hhost (readHost_of_colon (by simp) ?_ host)
    intro hlast
    rw [List.getLast?_append_cons] at hlast
    rcases List.mem_cons.mp (List.mem_of_getLast? hlast) with hcolon | hdigit
    · exact absurd hcolon (by decide)
    · exact hmark rfl hdigit
  · rw [hrest, hplace] at hparts
    rw [hrest] at hport ⊢
    rcases eq_or_mem_of_append_eq (hmark rfl) hparts with rfl | hcolon
    · have hsome : (Nat.toDigits 10 port).isEmpty = false :=
        List.isEmpty_eq_false_iff.mpr Nat.toDigits_ne_nil
      rw [portMeant, hsome, if_neg Bool.false_ne_true, number?_toDigits, Option.getD_some]
    · rw [readPort_of_colon scheme hcolon] at hport
      cases hport

/-- The authority of an address ends where the text that was pasted as its host ends it, or else behind the
port. -/
theorem takeWhile_pasted (name tail : List Char) (port : Nat) :
    (name ++ ':' :: Nat.toDigits 10 port ++ '/' :: tail).takeWhile (!endsAuthority ·) =
      if name.any endsAuthority then name.takeWhile (!endsAuthority ·)
      else name ++ ':' :: Nat.toDigits 10 port := by
  split_ifs with hends
  · obtain ⟨c, hc, hend⟩ := List.any_eq_true.mp hends
    rw [List.append_assoc, List.takeWhile_append, if_neg]
    intro hlength
    have hall := List.takeWhile_eq_self_iff.mp ((List.takeWhile_prefix _).eq_of_length hlength) c hc
    rw [hend] at hall
    cases hall
  · have hkept : ∀ c ∈ name ++ ':' :: Nat.toDigits 10 port, (!endsAuthority c) = true := by
      intro c hc
      rcases List.mem_append.mp hc with hname | hport
      · rw [Bool.not_eq_true, List.any_eq_false] at hends
        simpa using hends c hname
      · rcases List.mem_cons.mp hport with rfl | hdigit
        · rfl
        · have hslash := ne_of_test (d := '/') (isDigit_of_mem_toDigits hdigit) rfl
          have hback := ne_of_test (d := '\\') (isDigit_of_mem_toDigits hdigit) rfl
          have hquery := ne_of_test (d := '?') (isDigit_of_mem_toDigits hdigit) rfl
          have hfragment := ne_of_test (d := '#') (isDigit_of_mem_toDigits hdigit) rfl
          simp [endsAuthority, hslash, hback, hquery, hfragment]
    rw [List.takeWhile_append_of_pos hkept, List.takeWhile_cons_of_neg (by decide), List.append_nil]

/-- The port of an address with a pasted host is the one that was pasted behind it, unless the host ends the
authority: then the host alone says which port it is. -/
theorem effectivePort_of_pasted {scheme : Scheme} {host path : List Char} {port : Nat} {url : Url}
    (h : read (String.ofList (scheme.name.toList ++ "://".toList ++ host ++ ':' :: Nat.toDigits 10 port
      ++ '/' :: path)) = .ok url) :
    url.scheme = scheme ∧ url.effectivePort =
      if (seen host).any endsAuthority then authorityPort scheme ((seen host).takeWhile (!endsAuthority ·))
      else port := by
  obtain ⟨tail, hread⟩ := read_pasted scheme host port path
  rw [hread] at h
  obtain ⟨hscheme, ⟨name, hname⟩, hport⟩ := readRest_of_ok h
  have hmeant := readPort_of_ok hport
  rw [takeWhile_pasted] at hname hport hmeant
  refine ⟨hscheme, ?_⟩
  rw [effectivePort, hscheme, hmeant]
  split_ifs at hname hport ⊢ with hends
  · rfl
  · exact authorityPort_append hname hport

end ScreenKeyboard.Url
