import RepoFeed.Proofs.Reply.Grammar
import RepoFeed.Proofs.Request.Form
import RepoFeed.Proofs.Text.Digits
import RepoFeed.Refresh.Basic

/-
Where requests go.

Owner and name are put into an address as they are, so slashes, dots, question marks and
number signs in them take effect.  None of this reaches the host: it has ended before them,
both in the address as it is put together and in the one that is sent.  What they do to
the query ends before the callback, which is encoded and comes last.
-/

namespace RepoFeed

/-- The parts of an address, as they are written. -/
structure Address where
  scheme : List Char
  /-- The host, with a user in front and a port behind if there are any. -/
  authority : List Char
  path : List Char
  query : Option (List Char)
  fragment : Option (List Char)
deriving DecidableEq, Repr

namespace Address

/-- Reads an address as browsers do: tabs and line breaks are dropped, and either slash
ends the host. -/
def read? (text : List Char) : Option Address := do
  let (text, fragment) := Text.cut (· == '#') (text.filter (! Url.isDropped ·))
  let (text, query) := Text.cut (· == '?') text
  let (scheme, rest) := Text.cut (· == ':') text
  let rest ← rest
  let rest ← Text.after? ['/', '/'] rest
  let authority := rest.takeWhile (! Url.isSlash ·)
  let path := rest.dropWhile (! Url.isSlash ·)
  return { scheme, authority, path, query, fragment }

/-- The names and values in the query. -/
def pairs (address : Address) : List (List Char × List Char) :=
  Form.pairs (address.query.getD [])

end Address

namespace Url

/-! ## Characters of the parts -/

/-- Parts as they are written: nothing in them is dropped or ends them early. -/
structure IsWritten (url : Url) : Prop where
  path : ∀ segment ∈ url.path, segment.Disjoint ['\t', '\n', '\r', '#', '?']
  query : ∀ query ∈ url.query, query.Disjoint ['\t', '\n', '\r', '#']
  fragment : ∀ fragment ∈ url.fragment, fragment.Disjoint ['\t', '\n', '\r']

theorem filter_isDropped {text : List Char} (h : text.Disjoint ['\t', '\n', '\r']) :
    text.filter (! isDropped ·) = text := by
  rw [List.filter_eq_self]
  intro c hc
  simpa [isDropped, and_assoc] using h hc

/-- A path avoids what its segments avoid, apart from the slashes. -/
theorem disjoint_flatMap {stops : List Char} (hslash : '/' ∉ stops) {segments : List (List Char)}
    (h : ∀ segment ∈ segments, segment.Disjoint stops) :
    (segments.flatMap ('/' :: ·)).Disjoint stops := by
  intro c hc
  obtain ⟨segment, hsegment, hc⟩ := List.mem_flatMap.mp hc
  exact List.disjoint_cons_left.mpr ⟨hslash, h segment hsegment⟩ hc

theorem mem_of_mem_shorten {path : List (List Char)} {segment : List Char}
    (h : segment ∈ shorten path) : segment ∈ path := by
  unfold shorten at h
  split at h
  · split at h
    · exact h
    · exact (List.dropLast_subset path) h
  · contradiction

/-- The induction is on the segments to come.  Those already there are kept, taken back or
followed by an encoded or an empty one. -/
theorem forall_mem_addSegments {p : List Char → Prop} (hempty : p [])
    (hencode : ∀ segment, p (Percent.encode Percent.isReservedInPath segment))
    (segments : List (List Char)) {path : List (List Char)} (hpath : ∀ segment ∈ path, p segment) :
    ∀ segment ∈ addSegments path segments, p segment := by
  induction segments generalizing path with
  | nil => exact hpath
  | cons first rest ih =>
    have hlast : ∀ segment ∈ (if rest.isEmpty then [[]] else []), p segment := by
      intro segment h
      split at h
      · rwa [List.mem_singleton.mp h]
      · contradiction
    rw [addSegments]
    refine ih ?_
    by_cases hdouble : isDoubleDot first = true
    · rw [if_pos hdouble]
      exact List.forall_mem_append.mpr ⟨fun _ h => hpath _ (mem_of_mem_shorten h), hlast⟩
    · rw [if_neg hdouble]
      by_cases hsingle : isSingleDot first = true
      · rw [if_pos hsingle]
        exact List.forall_mem_append.mpr ⟨hpath, hlast⟩
      · rw [if_neg hsingle]
        exact List.forall_mem_append.mpr ⟨hpath, by simpa using hencode first⟩

theorem isWritten_parse (text : List Char) : (parse text).IsWritten where
  path := by
    have hencode : ∀ segment, (Percent.encode Percent.isReservedInPath segment).Disjoint
        ['\t', '\n', '\r', '#', '?'] := Percent.disjoint_encode (by decide) (by decide)
    exact forall_mem_addSegments (p := (List.Disjoint · _)) (List.disjoint_nil_left _) hencode _
      nofun
  query := by
    intro query hquery
    obtain ⟨_, -, rfl⟩ := Option.map_eq_some_iff.mp hquery
    exact Percent.disjoint_encode (by decide) (by decide) _
  fragment := by
    intro fragment hfragment
    obtain ⟨_, -, rfl⟩ := Option.map_eq_some_iff.mp hfragment
    exact Percent.disjoint_encode (by decide) (by decide) _

theorem IsWritten.addPair {url : Url} (h : url.IsWritten) (name value : List Char) :
    (url.addPair name value).IsWritten where
  path := h.path
  query := by
    intro query hquery
    obtain rfl := Option.some_inj.mp hquery
    have hpair : (Percent.encodeForm name ++ '=' :: Percent.encodeForm value).Disjoint
        ['\t', '\n', '\r', '#'] := Form.disjoint_pair (by decide) (by decide) name value
    split
    · exact hpair
    · exact hpair
    · rename_i before _ hbefore
      rw [List.disjoint_append_left, List.disjoint_cons_left]
      exact ⟨h.query before hbefore, by decide, hpair⟩
  fragment := h.fragment

theorem addSegments_ne_nil {segments : List (List Char)} (h : segments ≠ [])
    (path : List (List Char)) : addSegments path segments ≠ [] := by
  induction segments generalizing path with
  | nil => exact absurd rfl h
  | cons first rest ih =>
    rw [addSegments]
    cases rest with
    | nil =>
      simp only [addSegments, List.isEmpty_nil, if_true]
      split_ifs <;> simp
    | cons second rest => exact ih (List.cons_ne_nil _ _) _

/-- However far dots go back, a path that begins with a slash does not vanish. -/
theorem path_parse_ne_nil (text : List Char) : (parse ('/' :: text)).path ≠ [] := by
  have hslash : ('/' :: text).filter (! isDropped ·) = '/' :: text.filter (! isDropped ·) := rfl
  simp only [parse, hslash, Text.cut]
  exact addSegments_ne_nil (Text.split_ne_nil _) _

/-! ## Plain segments -/

/-- Characters of which the names of owners and repositories are made. -/
def isNameChar (c : Char) : Bool :=
  c.isAlphanum || c == '-' || c == '_' || c == '.'

/-- Names that are segments of a path just as they are. -/
structure IsSegment (name : List Char) : Prop where
  isNameChar : name.all isNameChar = true
  not_here : name ≠ ['.']
  not_above : name ≠ ['.', '.']

instance (name : List Char) : Decidable (IsSegment name) :=
  decidable_of_iff (name.all isNameChar = true ∧ name ≠ ['.'] ∧ name ≠ ['.', '.'])
    ⟨fun h => ⟨h.1, h.2.1, h.2.2⟩, fun h => ⟨h.1, h.2, h.3⟩⟩

theorem isReservedInPath_of_isNameChar {c : Char} (h : isNameChar c = true) :
    Percent.isReservedInPath c = false := by
  have htable : ∀ n : Fin 128, isNameChar (Char.ofNat n) = true →
      Percent.isReservedInPath (Char.ofNat n) = false := by decide
  have hlt : c.toNat < 128 := by
    simp only [isNameChar, Char.isAlphanum, Bool.or_eq_true, beq_iff_eq] at h
    obtain (((hletter | hdigit) | rfl) | rfl) | rfl := h
    · exact Nat.lt_of_le_of_lt (Text.letter_bounds hletter).2 (by decide)
    · exact Nat.lt_of_le_of_lt (Text.digit_bounds hdigit).2 (by decide)
    all_goals decide
  have hc := htable ⟨c.toNat, hlt⟩
  rw [Char.ofNat_toNat] at hc
  exact hc h

namespace IsSegment

variable {name : List Char}

theorem disjoint (h : IsSegment name) {stops : List Char}
    (hstops : stops.any Url.isNameChar = false) : name.Disjoint stops := by
  intro c hc hstop
  exact List.any_eq_false.mp hstops c hstop (List.all_eq_true.mp h.isNameChar c hc)

theorem encode_eq (h : IsSegment name) :
    Percent.encode Percent.isReservedInPath name = name := by
  have hplain : ∀ c ∈ name, (if Percent.isReservedInPath c then Percent.encodeChar c else [c]) =
      [c] := fun c hc => by
    rw [isReservedInPath_of_isNameChar (List.all_eq_true.mp h.isNameChar c hc)]
    rfl
  rw [Percent.encode, List.flatMap_congr hplain, List.flatMap_singleton']

theorem plainDots_eq (h : IsSegment name) : plainDots name = name := by
  have hpercent : '%' ∉ name := List.disjoint_singleton.mp (h.disjoint (by decide))
  clear h
  induction name using plainDots.induct with
  | case1 rest ih => simp at hpercent
  | case2 rest ih => simp at hpercent
  | case3 c rest hlower hupper ih =>
    rw [plainDots, ih fun h => hpercent (List.mem_cons_of_mem c h)]
    · exact hlower
    · exact hupper
  | case4 => rfl

/-- Nothing is resolved or encoded in segments that are plain. -/
theorem addSegments_eq {segments : List (List Char)} (h : ∀ name ∈ segments, IsSegment name)
    (path : List (List Char)) : addSegments path segments = path ++ segments := by
  induction segments generalizing path with
  | nil => rw [addSegments, List.append_nil]
  | cons name segments ih =>
    obtain ⟨hname, hsegments⟩ := List.forall_mem_cons.mp h
    have habove : ¬isDoubleDot name = true := by
      simpa [isDoubleDot, hname.plainDots_eq] using hname.not_above
    have hhere : ¬isSingleDot name = true := by
      simpa [isSingleDot, hname.plainDots_eq] using hname.not_here
    simp only [addSegments, if_neg habove, if_neg hhere, hname.encode_eq, ih hsegments,
      List.append_assoc, List.singleton_append]

end IsSegment

theorem split_append_flatMap {name : List Char} {segments : List (List Char)}
    (hname : IsSegment name) (h : ∀ name ∈ segments, IsSegment name) :
    Text.split isSlash (name ++ segments.flatMap ('/' :: ·)) = name :: segments := by
  have hone : ∀ {name}, IsSegment name → Text.split isSlash name = [name] := by
    intro name h
    have hslash : name.Disjoint ['/', '\\'] := h.disjoint (by decide)
    exact Text.split_of_forall fun c hc => by simpa [isSlash] using hslash hc
  induction segments generalizing name with
  | nil => rw [List.flatMap_nil, List.append_nil, hone hname]
  | cons next segments ih =>
    obtain ⟨hnext, hsegments⟩ := List.forall_mem_cons.mp h
    rw [List.flatMap_cons, List.cons_append, Text.split_append_cons (by rfl), hone hname,
      ih hnext hsegments, List.singleton_append]

/-- A path of plain segments is what it seems to be. -/
theorem parse_flatMap {segments : List (List Char)} (h : ∀ name ∈ segments, IsSegment name) :
    parse (segments.flatMap ('/' :: ·)) = ⟨segments, none, none⟩ := by
  have hpath : (segments.flatMap ('/' :: ·)).Disjoint ['\t', '\n', '\r', '#', '?'] :=
    disjoint_flatMap (by decide) fun name hname => (h name hname).disjoint (by decide)
  have hkept := filter_isDropped (List.disjoint_of_subset_right (by simp) hpath)
  have hnumber : '#' ∉ segments.flatMap ('/' :: ·) := fun hc => hpath hc (by decide)
  have hquestion : '?' ∉ segments.flatMap ('/' :: ·) := fun hc => hpath hc (by decide)
  -- What stands before the first slash is an empty segment.
  have hempty : IsSegment [] := by decide
  have hsplit := split_append_flatMap hempty h
  rw [List.nil_append] at hsplit
  simp only [parse, hkept, Text.cut_of_notMem hnumber, Text.cut_of_notMem hquestion, hsplit,
    List.drop_one, List.tail_cons, IsSegment.addSegments_eq h, List.nil_append, Option.map_none]

end Url

namespace Address

/-! ## Reading -/

/-- A part behind the mark that begins it, if there is such a part. -/
def marked (mark : Char) : Option (List Char) → List Char
  | some part => mark :: part
  | none => []

theorem cut_append_marked {mark : Char} {text : List Char} (h : mark ∉ text)
    (part : Option (List Char)) :
    Text.cut (· == mark) (text ++ marked mark part) = (text, part) := by
  cases part with
  | none => rw [marked, List.append_nil, Text.cut_of_notMem h]
  | some part => exact Text.cut_append_cons h part

theorem disjoint_marked {stops : List Char} {part : Option (List Char)} (mark : Char)
    (hmark : mark ∉ stops) (hpart : ∀ text ∈ part, text.Disjoint stops) :
    (marked mark part).Disjoint stops := by
  cases part with
  | none => exact List.disjoint_nil_left stops
  | some part => exact List.disjoint_cons_left.mpr ⟨hmark, hpart part rfl⟩

/-- Scheme and host are read before anything that follows them. -/
theorem read?_append (text : List Char) :
    read? ("https://api.github.com/".toList ++ text) =
      let (text, fragment) := Text.cut (· == '#') (text.filter (! Url.isDropped ·))
      let (path, query) := Text.cut (· == '?') text
      some ⟨"https".toList, "api.github.com".toList, '/' :: path, query, fragment⟩ := by
  have hkept : "https://api.github.com/".toList.filter (! Url.isDropped ·) =
      "https://api.github.com/".toList := by decide
  have hnumber : '#' ∉ "https://api.github.com/".toList := by decide
  have hquestion : '?' ∉ "https://api.github.com/".toList := by decide
  simp only [read?, List.filter_append, hkept, Text.cut_append hnumber,
    Text.cut_append hquestion]
  rfl

theorem toList_render (url : Url) (host : String) :
    (url.render host).toList = "https://".toList ++ host.toList ++
      (url.path.flatMap ('/' :: ·) ++ marked '?' url.query ++ marked '#' url.fragment) := by
  obtain ⟨path, query, fragment⟩ := url
  cases query <;> cases fragment <;> simp [Url.render, marked]

/-- A URL that is written reads as its parts. -/
theorem read?_render {url : Url} (h : url.IsWritten) (hnonempty : url.path ≠ []) :
    read? (url.render Endpoint.host).toList =
      some ⟨"https".toList, "api.github.com".toList, url.path.flatMap ('/' :: ·), url.query,
        url.fragment⟩ := by
  obtain ⟨segment, rest, hcons⟩ := List.exists_cons_of_ne_nil hnonempty
  obtain ⟨path, hwritten⟩ : ∃ path, url.path.flatMap ('/' :: ·) = '/' :: path :=
    ⟨segment ++ rest.flatMap ('/' :: ·), by rw [hcons]; rfl⟩
  have hsegments := Url.disjoint_flatMap (by decide) h.path
  rw [hwritten, List.disjoint_cons_left] at hsegments
  have hpath := hsegments.2
  have hquery := disjoint_marked '?' (by decide) h.query
  have hfragment := disjoint_marked '#' (by decide) h.fragment
  have hdropped : (path ++ marked '?' url.query ++ marked '#' url.fragment).Disjoint
      ['\t', '\n', '\r'] := by
    rw [List.disjoint_append_left, List.disjoint_append_left]
    exact ⟨⟨List.disjoint_of_subset_right (by simp) hpath,
      List.disjoint_of_subset_right (by simp) hquery⟩, hfragment⟩
  have hnumber : '#' ∉ path ++ marked '?' url.query := by
    rw [List.mem_append, not_or]
    exact ⟨fun hc => hpath hc (by decide), fun hc => hquery hc (by decide)⟩
  have hquestion : '?' ∉ path := fun hc => hpath hc (by decide)
  rw [toList_render, hwritten]
  show read? ("https://api.github.com/".toList ++
    (path ++ marked '?' url.query ++ marked '#' url.fragment)) = _
  simp only [read?_append, Url.filter_isDropped hdropped, cut_append_marked hnumber,
    cut_append_marked hquestion]

/-- A URL with one more pair reads as before, with the pair as the last of its query. -/
theorem read?_render_addPair {url : Url} (h : url.IsWritten) (hpath : url.path ≠ [])
    (name value : List Char) :
    ∃ query, read? ((url.addPair name value).render Endpoint.host).toList =
        some ⟨"https".toList, "api.github.com".toList, url.path.flatMap ('/' :: ·), some query,
          url.fragment⟩ ∧
      Form.pairs query = Form.pairs (url.query.getD []) ++ [(name, value)] := by
  obtain ⟨query, hquery, hpairs⟩ := Form.exists_query_addPair url name value
  refine ⟨query, ?_, hpairs⟩
  rw [read?_render (h.addPair name value) hpath, hquery]
  rfl

end Address

namespace Endpoint

open Url (IsSegment)

/-- The path by its four parts, of which owner and name may hold slashes of their own. -/
theorem toList_path (endpoint : Endpoint) :
    endpoint.path.toList =
      ["repos".toList, endpoint.repository.owner.toList, endpoint.repository.name.toList,
        "events".toList].flatMap ('/' :: ·) := by
  simp [path]

/-- The address as it is put together already ends its host where owner and name begin,
and what follows the host is what `Url.parse` takes apart. -/
theorem read?_address (endpoint : Endpoint) :
    ∃ path query fragment,
      Address.read? endpoint.address.toList =
          some ⟨"https".toList, "api.github.com".toList, path, query, fragment⟩ ∧
        Url.parse endpoint.path.toList =
          ⟨Url.addSegments [] ((Text.split Url.isSlash path).drop 1),
            query.map (Percent.encode Percent.isReservedInQuery),
            fragment.map (Percent.encode Percent.isReservedInFragment)⟩ := by
  obtain ⟨text, htext⟩ : ∃ text, endpoint.path.toList = '/' :: text := by
    rw [toList_path, List.flatMap_cons, List.cons_append]
    exact ⟨_, rfl⟩
  have haddress : endpoint.address.toList = "https://api.github.com/".toList ++ text := by
    rw [address, String.toList_append, htext]
    rfl
  rw [haddress, Address.read?_append, htext]
  exact ⟨_, _, _, rfl, rfl⟩

/-- The address that is sent, as it reads. -/
theorem exists_read?_url (endpoint : Endpoint) :
    ∃ address, Address.read? endpoint.url.toList = some address ∧
      address.scheme = "https".toList ∧ address.authority = "api.github.com".toList ∧
      (∃ earlier, address.pairs = earlier ++ [("callback".toList, endpoint.callback.toList)]) ∧
      (IsSegment endpoint.repository.owner.toList → IsSegment endpoint.repository.name.toList →
        address.path = endpoint.path.toList ∧
          address.pairs = [("callback".toList, endpoint.callback.toList)] ∧
          address.fragment = none) := by
  have hpath : (Url.parse endpoint.path.toList).path ≠ [] := by
    rw [toList_path, List.flatMap_cons, List.cons_append]
    exact Url.path_parse_ne_nil _
  obtain ⟨query, hread, hpairs⟩ := Address.read?_render_addPair
    (Url.isWritten_parse endpoint.path.toList) hpath "callback".toList endpoint.callback.toList
  refine ⟨_, hread, rfl, rfl, ⟨_, hpairs⟩, fun howner hname => ?_⟩
  have hsegments : ∀ name ∈ ["repos".toList, endpoint.repository.owner.toList,
      endpoint.repository.name.toList, "events".toList], IsSegment name := by
    simp only [List.forall_mem_cons]
    exact ⟨by decide, howner, hname, by decide, nofun⟩
  have hparse := Url.parse_flatMap hsegments
  rw [← toList_path] at hparse
  rw [hparse] at hpairs ⊢
  exact ⟨(toList_path endpoint).symm, hpairs, rfl⟩

-- Dots take a segment back, and the rest of the path ends in a query and a fragment.
example :
    Address.read? (url ⟨⟨"..\\@host", "?q=1#"⟩, "a b&\u00e9"⟩).toList =
      some ⟨"https".toList, "api.github.com".toList, "/@host/".toList,
        some "q=1&callback=a+b%26%C3%A9".toList, some "/events".toList⟩ := by
  decide +kernel

end Endpoint

namespace Exchange

/-- Events only come out of a body that calls the callback which was asked for. -/
theorem exists_isCallOf_of_hear {endpoint : Endpoint} {quota : Quota} {reply : Reply}
    {events : List Event} (h : (hear endpoint quota reply).result = .ok events) :
    ∃ response body inner, reply = some response ∧ response.text? = some body ∧
      Wrapper.IsCallOf endpoint.callback.toList inner body.toList := by
  cases reply with
  | none => contradiction
  | some response =>
    simp only [hear] at h
    split at h
    · split at h
      · contradiction
      · rename_i body hbody
        split at h
        · contradiction
        · rename_i envelope henvelope
          obtain ⟨inner, hinner, -⟩ := bind_eq_ok.mp henvelope
          exact ⟨response, body, inner, rfl, hbody,
            Wrapper.isCallOf_of_unwrap (mapError_eq_ok.mp hinner)⟩
    · contradiction

end Exchange

namespace Refresher

open Url (IsSegment)

variable {σ : Type}

theorem exists_hear_of_fetch {r : Refresher σ} {clock : Int} {reply : Reply} {quota : Quota}
    {state : σ} {shown : List String} {notices : List Notice} {freshening : Freshening}
    (h : (r.fetch clock reply quota state shown notices).result = .ok freshening) :
    ∃ events, (Exchange.hear r.endpoint quota reply).result = .ok events := by
  cases hresult : (Exchange.hear r.endpoint quota reply).result with
  | ok events => exact ⟨events, rfl⟩
  | error problem => simp [fetch, hresult] at h

/-- Events are asked for once and on one host only, whatever owner, name and callback are.
The last pair of the query is the callback, and a reply is of use only if it calls this
callback.  Owner and name that are plain stand in the path as they are. -/
theorem fetch_requests (r : Refresher σ) (clock : Int) (reply : Reply) (quota : Quota)
    (state : σ) (shown : List String) (notices : List Notice) :
    ∃ request address,
      (r.fetch clock reply quota state shown notices).requests = [request] ∧
        Address.read? request.url.toList = some address ∧
        address.scheme = "https".toList ∧ address.authority = "api.github.com".toList ∧
        address.pairs.getLast? = some ("callback".toList, r.endpoint.callback.toList) ∧
        (IsSegment r.endpoint.repository.owner.toList →
          IsSegment r.endpoint.repository.name.toList →
          address.path = ("/repos/" ++ r.endpoint.repository.owner ++ "/" ++
              r.endpoint.repository.name ++ "/events").toList ∧
            address.pairs = [("callback".toList, r.endpoint.callback.toList)] ∧
            address.fragment = none) ∧
        ∀ freshening,
          (r.fetch clock reply quota state shown notices).result = .ok freshening →
          ∃ response body inner, reply = some response ∧ response.text? = some body ∧
            Wrapper.IsCallOf r.endpoint.callback.toList inner body.toList := by
  obtain ⟨address, hread, hscheme, hauthority, ⟨earlier, hpairs⟩, hplain⟩ :=
    r.endpoint.exists_read?_url
  refine ⟨r.endpoint.request r.token, address, ?_, hread, hscheme, hauthority, ?_, hplain,
    fun freshening hresult => ?_⟩
  · unfold fetch
    dsimp only
    split
    · rfl
    · split <;> rfl
  · rw [hpairs, List.getLast?_concat]
  · obtain ⟨events, hevents⟩ := exists_hear_of_fetch hresult
    exact Exchange.exists_isCallOf_of_hear hevents

end Refresher
end RepoFeed
