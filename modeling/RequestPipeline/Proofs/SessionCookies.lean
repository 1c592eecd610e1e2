import RequestPipeline.Proofs.SessionExchange

/-!
# Which cookie decides

A session stage looks for one cookie among all that a request brings.  The first piece under its
name decides, in the order of the values and of the pieces in each; all other pieces, and values
that are not plain, might as well not be there.
-/

namespace RequestPipeline

namespace Text

/-- Pieces have the characters of the whole, apart from the marks. -/
theorem all_splitAt {mark : Char} {p : Char → Bool} (marked : p mark = true) (cs : List Char) :
    (splitAt mark cs).all (·.all p) = cs.all p := by
  induction cs with
  | nil => rfl
  | cons c rest ih =>
      unfold splitAt
      split
      · next same => simp [ih, same, marked]
      · cases pieces : splitAt mark rest with
        | nil => exact absurd pieces (splitAt_ne_nil mark rest)
        | cons piece others =>
            rw [pieces] at ih
            simp [← ih, Bool.and_assoc]

theorem not_mem_of_cutFirst? {mark : Char} {cs : List Char} (uncut : cutFirst? mark cs = none) :
    mark ∉ cs := by
  intro member
  obtain ⟨before, after, rfl, free⟩ := List.eq_append_cons_of_mem member
  rw [cutFirst?_append free] at uncut
  cases uncut

end Text

namespace Http

namespace Cookie

/-! ## Pieces under a name -/

/-- A piece carries a value under a name: trimmed, it is the name, `=` and the value. -/
def Carries (name : String) (piece value : List Char) : Prop :=
  Text.trim piece = name.toList ++ '=' :: value

/-- A piece that carries nothing under a name: it has no `=`, or another name in front of the
first one. -/
inductive Silent (name : String) (piece : List Char) : Prop
  | bare (free : '=' ∉ Text.trim piece)
  | other {key value : List Char} (text : Text.trim piece = key ++ '=' :: value)
      (first : '=' ∉ key) (differs : key ≠ name.toList)

def carried? (name : String) (piece : List Char) : Option (List Char) :=
  Text.stripStart? (name.toList ++ ['=']) (Text.trim piece)

theorem carried?_eq_some {name : String} {piece value : List Char} :
    carried? name piece = some value ↔ Carries name piece value := by
  rw [carried?, Text.stripStart?_eq_some, List.append_assoc]
  rfl

theorem carried?_of_silent {name : String} (token : isToken name = true) {piece : List Char}
    (silent : Silent name piece) : carried? name piece = none := by
  refine Option.eq_none_iff_forall_ne_some.mpr fun value carries => ?_
  have text : Text.trim piece = name.toList ++ '=' :: value := carried?_eq_some.mp carries
  cases silent with
  | bare free =>
      rw [text] at free
      exact free (List.mem_append_right _ List.mem_cons_self)
  | @other key otherValue otherText first differs =>
      -- neither name has an `=`, so both are what stands in front of the first one
      have named : '=' ∉ name.toList := fun member => (isInert_of_mem_name token member).equals rfl
      have cut : Text.cutFirst? '=' (key ++ '=' :: otherValue) = some (key, otherValue) :=
        Text.cutFirst?_append first
      rw [← otherText, text, Text.cutFirst?_append named] at cut
      exact differs (congrArg Prod.fst (Option.some.inj cut)).symm

/-- The first pair under a name is read from the first piece that carries something under it. -/
theorem find?_pairs {name : String} (token : isToken name = true) (pieces : List (List Char)) :
    ((pieces.filterMap pair?).find? (·.1 == name.toList)).map Prod.snd =
      pieces.findSome? (carried? name) := by
  induction pieces with
  | nil => rfl
  | cons piece rest ih =>
      rw [List.findSome?_cons]
      cases cut : pair? piece with
      | none =>
          have silent : Silent name piece := .bare (Text.not_mem_of_cutFirst? cut)
          rw [List.filterMap_cons_none cut, carried?_of_silent token silent]
          exact ih
      | some pair =>
          obtain ⟨key, value⟩ := pair
          obtain ⟨text, first⟩ := Text.cutFirst?_eq_some cut
          rw [List.filterMap_cons_some cut]
          by_cases same : key = name.toList
          · subst same
            rw [List.find?_cons_of_pos (by exact beq_self_eq_true name.toList),
              carried?_eq_some.mpr text]
            rfl
          · have silent : Silent name piece := .other text first same
            rw [List.find?_cons_of_neg (by simpa using same), carried?_of_silent token silent]
            exact ih

/-! ## The piece that decides -/

/-- The pieces of all plain values, in order. -/
def pieces (values : List String) : List (List Char) :=
  (values.filter isPlainValue).flatMap fun value => Text.splitAt ';' value.toList

/-- The first piece that carries something under a name carries this value. -/
def Decides (name : String) (values : List String) (value : List Char) : Prop :=
  ∃ before piece after, pieces values = before ++ piece :: after ∧ Carries name piece value ∧
    ∀ other ∈ before, ∀ carried, ¬ Carries name other carried

def carried (name : String) (values : List String) : List (List Char) :=
  (pieces values).filterMap (carried? name)

theorem head?_carried {name : String} {values : List String} {value : List Char} :
    (carried name values).head? = some value ↔ Decides name values value := by
  rw [carried, List.head?_filterMap, List.findSome?_eq_some_iff]
  simp only [Decides, carried?_eq_some, Option.eq_none_iff_forall_ne_some, ne_eq]

theorem value?_eq {name : String} (token : isToken name = true) (values : List String) :
    value? name values = (carried name values).head?.map Text.trim := by
  have all : allPairs values = (pieces values).filterMap pair? := by
    rw [allPairs, pieces, List.filterMap_flatMap]
    rfl
  rw [value?, carried, List.head?_filterMap, ← find?_pairs token, ← all, Option.map_map]
  rfl

/-! ## What changes nothing -/

/-- Values with more in them that says nothing about a name, wherever it stands: values that are
not plain or of which all pieces are silent, and silent pieces in a value. -/
inductive Padded (name : String) (values : List String) : List String → Prop
  | none : Padded name values values
  | value {before after : List String} {value : String}
      (padded : Padded name values (before ++ after))
      (silent : isPlainValue value = true →
        ∀ piece ∈ Text.splitAt ';' value.toList, Silent name piece) :
      Padded name values (before ++ value :: after)
  | piece {before after : List String} {value longer : String} {first last : List (List Char)}
      {piece : List Char} (padded : Padded name values (before ++ value :: after))
      (short : Text.splitAt ';' value.toList = first ++ last)
      (long : Text.splitAt ';' longer.toList = first ++ piece :: last)
      (plain : piece.all isPlainChar = true) (silent : Silent name piece) :
      Padded name values (before ++ longer :: after)

theorem carried_append (name : String) (before after : List String) :
    carried name (before ++ after) = carried name before ++ carried name after := by
  simp [carried, pieces]

theorem carried_cons (name value : String) (values : List String) :
    carried name (value :: values) =
      (if isPlainValue value = true then
        (Text.splitAt ';' value.toList).filterMap (carried? name) else []) ++
          carried name values := by
  by_cases plain : isPlainValue value = true
  · simp [carried, pieces, plain]
  · simp [carried, pieces, plain]

theorem isPlainValue_eq (value : String) :
    isPlainValue value = (Text.splitAt ';' value.toList).all (·.all isPlainChar) := by
  rw [isPlainValue, Text.all_splitAt (by decide)]

/-- What is carried under a name stays the same. -/
theorem Padded.carried_eq {name : String} (token : isToken name = true)
    {values longer : List String} (padded : Padded name values longer) :
    carried name longer = carried name values := by
  induction padded with
  | none => rfl
  | @value before after value padded silent ih =>
      rw [← ih, carried_append, carried_append, carried_cons]
      by_cases plain : isPlainValue value = true
      · have nothing : (Text.splitAt ';' value.toList).filterMap (carried? name) = [] :=
          List.filterMap_eq_nil_iff.mpr fun piece member =>
            carried?_of_silent token (silent plain piece member)
        rw [if_pos plain, nothing, List.nil_append]
      · rw [if_neg plain, List.nil_append]
  | @piece before after value longer first last piece padded short long plain silent ih =>
      -- a plain piece makes no value unreadable, and so hides no other piece of it
      have same : isPlainValue longer = isPlainValue value := by
        rw [isPlainValue_eq, isPlainValue_eq, short, long, List.all_append, List.all_cons, plain,
          Bool.true_and, List.all_append]
      rw [← ih, carried_append, carried_append, carried_cons, carried_cons, same, short, long,
        List.filterMap_append, List.filterMap_append,
        List.filterMap_cons_none (carried?_of_silent token silent)]

end Cookie

end Http

/-! ## The session stage -/

namespace Host

open Http

/-- The response of a session stage is the inner one, with a cookie behind it for a session that
was issued. -/
theorem offer_eq {stage : SessionStage} {supply : Nat}
    (lawful : stage.identifiers.Lawful supply) (token : isToken stage.cookieName = true)
    (printable : ∀ c ∈ stage.cookiePath.toList, 32 ≤ c.val ∧ c.val ≠ 127) (session : Session)
    (response : Response) :
    stage.offer session response = { response with
      fields := response.fields ++ if session.fresh then [("set-cookie",
        Cookie.setValue stage.cookieName stage.cookiePath
          (stage.identifiers.text session.id))] else [] } := by
  unfold SessionStage.offer
  split
  · have inert := lawful.isInert session.id
    rw [Response.addField, if_pos (Cookie.isFieldValue_setValue token inert printable)]
    rfl
  · rw [List.append_nil]

/-- A session stage is handed a request, with any stages ahead of it.  It hands on the session it
has resolved, and leaves the response as it is, but for one cookie behind the other fields that
carries the identifier if that was issued, and then is none of those issued before as long as the
supply lasts.  The first piece under the name of the cookie decides: if
its value, trimmed, reads as an identifier, the session is that one and not a new one; if it does
not, and if there is no such piece, one is issued.  Values that are not plain, pieces under other
names and pieces without `=` may stand anywhere and change nothing. -/
theorem session_is_decided_by_first_pair {host : Host} {outer : Nat} {stage : SessionStage}
    (held : host.wrapper? outer = some (.session stage)) {supply : Nat}
    (lawful : stage.identifiers.Lawful supply) (token : isToken stage.cookieName = true)
    (printable : ∀ c ∈ stage.cookiePath.toList, 32 ≤ c.val ∧ c.val ≠ 127)
    (ahead : List StageRef) (request : Request) :
    let values := request.fields.values "cookie"
    let entered := host.note (.stage (.wrapper outer) .entered) none
    let issued : Session × Host :=
      (⟨stage.identifiers.issue (host.journal.sessionsIssued + 1), true⟩,
        entered.note .sessionIssued none)
    let resolved := entered.resolveSession stage request
    let inner := handleAlong ahead { request with session := some resolved.1 } resolved.2
    (handleAlong (.wrapper outer :: ahead) request host =
      ({ inner.1 with
          fields := inner.1.fields ++ if resolved.1.fresh then [("set-cookie",
            Cookie.setValue stage.cookieName stage.cookiePath
              (stage.identifiers.text resolved.1.id))] else [] },
        inner.2)) ∧
    (resolved.1.fresh = true → host.journal.sessionsIssued < supply →
      ∀ earlier ≤ host.journal.sessionsIssued,
        stage.identifiers.issue earlier ≠ resolved.1.id) ∧
    (∀ value, Cookie.Decides stage.cookieName values value →
      resolved = (stage.identifiers.read? (Text.trim value)).elim issued
        fun id => (⟨id, false⟩, entered)) ∧
    ((∀ value, ¬ Cookie.Decides stage.cookieName values value) → resolved = issued) ∧
    ∀ other : Request, Cookie.Padded stage.cookieName values (other.fields.values "cookie") →
      entered.resolveSession stage other = resolved := by
  intro values entered issued resolved inner
  have uncounted : entered.journal.sessionsIssued = host.journal.sessionsIssued :=
    host.sessionsIssued_entered (.wrapper outer)
  have told : resolved = (stage.identifier? request).elim issued
      fun id => (⟨id, false⟩, entered) := by
    simp only [resolved, issued, resolveSession, uncounted]
    cases stage.identifier? request <;> rfl
  have read : stage.identifier? request = ((Cookie.carried stage.cookieName values).head?.map
      Text.trim).bind stage.identifiers.read? :=
    congrArg (Option.bind · stage.identifiers.read?) (Cookie.value?_eq token values)
  refine ⟨?_, ?_, ?_, ?_, ?_⟩
  · rw [handleAlong_resolved held]
    dsimp only
    rw [offer_eq lawful token printable]
  · intro fresh within earlier before
    cases known : stage.identifier? request with
    | none =>
        rw [told, known]
        exact lawful.issue_ne (Nat.lt_succ_of_le before) within
    | some id =>
        rw [told, known] at fresh
        cases fresh
  · intro value decides
    rw [told, read, Cookie.head?_carried.mpr decides]
    rfl
  · intro undecided
    have nothing : (Cookie.carried stage.cookieName values).head? = none :=
      Option.eq_none_iff_forall_ne_some.mpr fun value first =>
        undecided value (Cookie.head?_carried.mp first)
    rw [told, read, nothing]
    rfl
  · intro other padded
    have same : stage.identifier? other = stage.identifier? request := by
      rw [SessionStage.identifier?, SessionStage.identifier?, Cookie.value?_eq token,
        Cookie.value?_eq token, padded.carried_eq token]
    simp only [resolved, resolveSession, same]

/-- A lobby where sessions travel in a cookie of their own name. -/
def lobby : Host := { wrappers := [{ wrapper := .session { cookieName := "SID" } }] }

def badge : String := "SID= 019a7c4e-5b36-7d2f-984e-000000000001;SID=none"

/-- A visitor with a badge is known by its first piece, also among other cookies and behind a value
that cannot be read.  A badge that holds no identifier is replaced. -/
theorem badge_is_found_among_other_cookies :
    let visitor : Request := { Request.get "/" with fields := [("cookie", badge)] }
    let crowded : Request := { Request.get "/" with
      fields := [("cookie", "SID=caf\u00e9"), ("cookie", "theme=dark;" ++ badge)] }
    let stranger : Request := { Request.get "/" with fields := [("cookie", "a=1; SID=x=y")] }
    let entered := lobby.note (.stage (.wrapper 0) .entered) none
    Identifier.parse? " 019a7c4e-5b36-7d2f-984e-000000000001".toList = none ∧
    entered.resolveSession { cookieName := "SID" } crowded = (⟨.issued 1, false⟩, entered) ∧
    (handleAlong [.wrapper 0] visitor lobby).1 = .notFound ∧
    (handleAlong [.wrapper 0] stranger lobby).1 = { Response.notFound with
      fields := Response.notFound.fields ++ [("set-cookie",
        "SID=019a7c4e-5b36-7d2f-984e-000000000001; Path=/; HttpOnly; SameSite=Lax")] } := by
  intro visitor crowded stranger entered
  have held : lobby.wrapper? 0 = some (.session { cookieName := "SID" }) := rfl
  have printable : ∀ c ∈ "/".toList, 32 ≤ c.val ∧ c.val ≠ 127 :=
    List.forall_mem_singleton.mpr (by decide)
  have lawful := IdentifierScheme.standard_lawful
  obtain ⟨unchanged, -, reused, -, alike⟩ :=
    session_is_decided_by_first_pair held lawful (by decide) printable [] visitor
  obtain ⟨offered, -, replaced, -, -⟩ :=
    session_is_decided_by_first_pair held lawful (by decide) printable [] stranger
  have known : entered.resolveSession { cookieName := "SID" } visitor =
      (⟨.issued 1, false⟩, entered) := by
    rw [reused " 019a7c4e-5b36-7d2f-984e-000000000001".toList
      (Cookie.head?_carried.mp (by decide +kernel))]
    have read : IdentifierScheme.standard.read?
        (Text.trim " 019a7c4e-5b36-7d2f-984e-000000000001".toList) = some (.issued 1) := by
      decide +kernel
    dsimp only
    rw [read]
    rfl
  have fresh : entered.resolveSession { cookieName := "SID" } stranger =
      (⟨.issued 1, true⟩, entered.note .sessionIssued none) :=
    replaced "x=y".toList (Cookie.head?_carried.mp (by decide +kernel))
  have padded : Cookie.Padded "SID" [badge]
      ([] ++ "SID=caf\u00e9" :: ["theme=dark;" ++ badge]) := by
    have text : Text.trim "theme=dark".toList = "theme".toList ++ '=' :: "dark".toList := by decide
    have short : Text.splitAt ';' badge.toList = [] ++ Text.splitAt ';' badge.toList := rfl
    have long : Text.splitAt ';' ("theme=dark;" ++ badge).toList =
        [] ++ "theme=dark".toList :: Text.splitAt ';' badge.toList := by decide +kernel
    have longer : Cookie.Padded "SID" [badge] ([] ++ ["theme=dark;" ++ badge]) :=
      .piece .none short long (by decide) (.other text (by decide) (by decide))
    exact .value longer fun plain => absurd plain (by decide)
  refine ⟨by decide, (alike crowded padded).trans known, ?_, ?_⟩
  · rw [unchanged, known]
    rfl
  · rw [offered, fresh]
    decide +kernel

end Host

end RequestPipeline
