import Formulary.Http.Message
import Formulary.Http.Route
import Formulary.Proofs.Cutting

/-!
# Targets that are plain paths

A target is taken apart more than once, and its escapes are resolved.  A path of letters, digits and
slashes comes through all of this as it is and is meant for the server itself.  The path of a
formula with an id leads to its evaluation.
-/

namespace Formulary.Http

/-- A character that only stands for itself or parts the names of a path. -/
def isPlain (c : Char) : Bool :=
  c.isAlphanum || c == '/'

variable {c : Char} {text path : Text} {id : Nat}

theorem toNat_of_isPlain (hplain : isPlain c) : 47 ≤ c.toNat ∧ c.toNat ≤ 122 := by
  simp only [isPlain, Char.isAlphanum, Bool.or_eq_true, beq_iff_eq] at hplain
  rcases hplain with (hletter | hdigit) | rfl
  · have hrange := Token.toNat_of_isAlpha hletter
    omega
  · have hrange := Token.toNat_of_isDigit hdigit
    omega
  · decide

theorem ne_of_isPlain (hplain : isPlain c) {other : Char} (hother : isPlain other = false) :
    c ≠ other := by
  rintro rfl
  rw [hplain] at hother
  cases hother

theorem not_mem_of_isPlain (hplain : ∀ c ∈ text, isPlain c) {other : Char}
    (hother : isPlain other = false) : other ∉ text := by
  intro hmem
  exact ne_of_isPlain (hplain other hmem) hother rfl

/-! ## Escapes -/

theorem utf8EncodeChar_of_isPlain (hplain : isPlain c) :
    String.utf8EncodeChar c = [UInt8.ofNat c.toNat] := by
  have hrange := toNat_of_isPlain hplain
  have hle : c.toNat ≤ 127 := by omega
  exact if_pos hle

theorem escapedBytes_of_isPlain (hplain : ∀ c ∈ text, isPlain c) :
    escapedBytes text = text.map fun c => UInt8.ofNat c.toNat := by
  induction text with
  | nil => rw [escapedBytes, List.map_nil]
  | cons c rest ih =>
      have hc := hplain c List.mem_cons_self
      have hpercent : c ≠ '%' := ne_of_isPlain hc (by decide)
      rw [escapedBytes, utf8EncodeChar_of_isPlain hc,
        ih fun d hd => hplain d (List.mem_cons_of_mem c hd)]
      · rfl
      · intro high low others hsame
        exact absurd hsame hpercent

theorem unescape_of_isPlain (hplain : ∀ c ∈ text, isPlain c) : unescape text = text := by
  rw [unescape, escapedBytes_of_isPlain hplain, Text.ofUtf8]
  induction text with
  | nil => rfl
  | cons c rest ih =>
      have hrange := toNat_of_isPlain (hplain c List.mem_cons_self)
      have hbyte : (UInt8.ofNat c.toNat).toNat = c.toNat :=
        UInt8.toNat_ofNat_of_lt' (by rw [UInt8.size]; omega)
      have hascii : c.toNat < 0x80 := by omega
      rw [List.map_cons, Text.readUtf8]
      simp only [hbyte, Text.beginChar, if_pos hascii, Char.ofNat_toNat]
      rw [ih fun d hd => hplain d (List.mem_cons_of_mem c hd)]
      rfl

/-! ## Links -/

def IsRooted (path : Text) : Prop :=
  ∃ c rest, path = '/' :: c :: rest ∧ c ≠ '/'

theorem clean_of_isPlain (hplain : ∀ c ∈ path, isPlain c) : Link.clean path = path := by
  have hfront : path.dropWhile (fun c => decide (c ≤ ' ')) = path := by
    cases path with
    | nil => rfl
    | cons c rest =>
        have hrange := toNat_of_isPlain (hplain c List.mem_cons_self)
        have hspace : ¬ c ≤ ' ' := by
          intro hle
          have hcode : c.toNat ≤ 32 := hle
          omega
        rw [List.dropWhile_cons_of_neg (by simpa using hspace)]
  rw [Link.clean, hfront, List.filter_eq_self]
  intro c hc
  have htab := ne_of_isPlain (hplain c hc) (by decide : isPlain '\t' = false)
  have hreturn := ne_of_isPlain (hplain c hc) (by decide : isPlain '\r' = false)
  have hline := ne_of_isPlain (hplain c hc) (by decide : isPlain '\n' = false)
  simp [htab, hreturn, hline]

theorem takeWhile_ne_of_isPlain (hplain : ∀ c ∈ path, isPlain c) {other : Char}
    (hother : isPlain other = false) : path.takeWhile (· != other) = path := by
  rw [List.takeWhile_eq_self_iff]
  intro c hc
  simpa using ne_of_isPlain (hplain c hc) hother

theorem dropWhile_ne_of_isPlain (hplain : ∀ c ∈ path, isPlain c) {other : Char}
    (hother : isPlain other = false) : path.dropWhile (· != other) = [] := by
  rw [List.dropWhile_eq_nil_iff]
  intro c hc
  simpa using ne_of_isPlain (hplain c hc) hother

theorem ofText_link (hplain : ∀ c ∈ path, isPlain c) (hrooted : IsRooted path) :
    Link.ofText path = .ok ⟨[], [], path, []⟩ := by
  have hcolon : path.contains ':' = false := by
    simpa using not_mem_of_isPlain hplain (by decide)
  have hscheme : Link.splitScheme (Link.clean path) = ([], path) := by
    rw [clean_of_isPlain hplain, Link.splitScheme]
    simp only [hcolon, Bool.false_and, Bool.false_eq_true, if_false]
  have hauthority : Link.splitAuthority path = ([], path) := by
    obtain ⟨c, rest, rfl, hc⟩ := hrooted
    rw [Link.splitAuthority]
    intro others hsame
    exact hc (List.cons.inj (List.cons.inj hsame).2).1
  have hbracket : Authority.bracketFault? [] = none := rfl
  have hfragment := takeWhile_ne_of_isPlain hplain (by decide : isPlain '#' = false)
  have hpath := takeWhile_ne_of_isPlain hplain (by decide : isPlain '?' = false)
  have hquery := dropWhile_ne_of_isPlain hplain (by decide : isPlain '?' = false)
  simp only [Link.ofText, hscheme, hauthority, hbracket, Authority.splitFirst, hfragment, hpath,
    hquery, List.drop_nil]

/-- A request to a plain path is one to the server itself. -/
theorem ofText_target (hplain : ∀ c ∈ path, isPlain c) (hrooted : IsRooted path) :
    Target.ofText path = .ok ⟨"http".toList, "localhost".toList, path, []⟩ := by
  have hlink := ofText_link hplain hrooted
  have hwhole : Link.wholePath ⟨[], [], path, []⟩ = .ok path := by
    have hnone : Authority.ofText [] = .ok ⟨none, [], none⟩ := rfl
    simp only [Link.wholePath, hnone, bind, Except.bind]
    rfl
  have hserver : Authority.ofText "localhost".toList = .ok ⟨none, "localhost".toList, none⟩ := by
    decide +kernel
  have hhost : Text.asciiLower (Target.dropStandardPort "http".toList
      (Authority.write ⟨none, "localhost".toList, none⟩)) = "localhost".toList := by
    decide +kernel
  have hquery : Link.writeQuery [] = [] := rfl
  simp only [Target.ofText, hlink, hquery, List.append_nil, hwhole, bind, Except.bind,
    Target.orElse, unescape_of_isPlain hplain, List.isEmpty_nil, if_true, hserver, hhost]
  rfl

theorem ofParts_eq (hplain : ∀ c ∈ path, isPlain c) (hrooted : IsRooted path) (method : Text)
    (contentType body : Option Text) :
    Request.ofParts method path contentType body =
      if contentType.any hasLineEnd then .error .brokenHeader
      else .ok ⟨method, ⟨"http".toList, "localhost".toList, path, []⟩, contentType, body⟩ := by
  simp only [Request.ofParts, ofText_target hplain hrooted, Except.mapError, bind, Except.bind]
  rfl

/-! ## The path of a formula -/

theorem slash_not_mem_of_mapM {part digits : Text} (hdigits : part.mapM asciiDigit? = some digits) :
    '/' ∉ part := by
  have hslash : asciiDigit? '/' = none := by decide +kernel
  induction part generalizing digits with
  | nil => simp
  | cons c rest ih =>
      rw [List.mapM_cons] at hdigits
      obtain ⟨digit, hdigit, hrest⟩ := Option.bind_eq_some_iff.mp hdigits
      obtain ⟨others, hothers, -⟩ := Option.bind_eq_some_iff.mp hrest
      rw [List.mem_cons, not_or]
      refine ⟨?_, ih hothers⟩
      rintro rfl
      rw [hslash] at hdigit
      cases hdigit

theorem slash_not_mem_of_idOf? {part : Text} (hid : Route.idOf? part = some id) : '/' ∉ part := by
  unfold Route.idOf? at hid
  split at hid
  · cases hid
  · obtain ⟨digits, hdigits, -⟩ := Option.map_eq_some_iff.mp hid
    exact slash_not_mem_of_mapM hdigits

theorem find_evaluate {part : Text} (hid : Route.idOf? part = some id) :
    Route.find "POST".toList ("/api/equations/".toList ++ part ++ "/evaluate".toList) =
      .route (.evaluate id) .post := by
  have hparts : ("api/equations/".toList ++ part ++ "/evaluate".toList).splitOn '/' =
      ["api".toList, "equations".toList, part, "evaluate".toList] := by
    have hslash : ∀ name ∈ ["api".toList, "equations".toList, part, "evaluate".toList],
        '/' ∉ name := by
      simp only [List.forall_mem_cons]
      exact ⟨by decide, by decide, slash_not_mem_of_idOf? hid, by decide, by simp⟩
    exact List.splitOn_intercalate '/' hslash (by simp)
  have hpath : Route.ofPath? ("api/equations/".toList ++ part ++ "/evaluate".toList) =
      some (.evaluate id) := by
    have hfolder : Route.assetFolder.isPrefixOf
        ("api/equations/".toList ++ part ++ "/evaluate".toList) = false := rfl
    simp only [Route.ofPath?, hfolder, hparts, Bool.false_eq_true, if_false, and_self, if_true, hid,
      Option.map_some]
  have haction : (Route.evaluate id).action? "POST".toList = some .post := by
    have hupper : String.ofList (Text.upper "POST".toList) = "POST" := by decide +kernel
    simp only [Route.action?, hupper, Route.isPosted, if_true]
  unfold Route.find
  have hdrop : ("/api/equations/".toList ++ part ++ "/evaluate".toList).dropWhile (· == '/') =
      "api/equations/".toList ++ part ++ "/evaluate".toList := rfl
  simp only [hdrop, hpath, Option.bind_some, haction, Option.map_some]

theorem ofParts_evaluate {part : Text} (hdigits : ∀ c ∈ part, c.isDigit)
    (contentType body : Option Text) :
    Request.ofParts "POST".toList ("/api/equations/".toList ++ part ++ "/evaluate".toList)
        contentType body =
      if contentType.any hasLineEnd then .error .brokenHeader
      else .ok
        { method := "POST".toList
          target := ⟨"http".toList, "localhost".toList,
            "/api/equations/".toList ++ part ++ "/evaluate".toList, []⟩
          contentType, body } := by
  have hplain : ∀ c ∈ "/api/equations/".toList ++ part ++ "/evaluate".toList, isPlain c := by
    intro c hc
    simp only [List.mem_append] at hc
    rcases hc with (hc | hc) | hc
    · exact List.all_eq_true.mp (by decide : "/api/equations/".toList.all isPlain) c hc
    · simp [isPlain, Char.isAlphanum, hdigits c hc]
    · exact List.all_eq_true.mp (by decide : "/evaluate".toList.all isPlain) c hc
  have hrooted : IsRooted ("/api/equations/".toList ++ part ++ "/evaluate".toList) :=
    ⟨'a', _, rfl, by decide⟩
  exact ofParts_eq hplain hrooted _ contentType body

end Formulary.Http
