import LedgerRules.Proofs.Account.Requesting
import LedgerRules.Proofs.Number.Instants
import LedgerRules.Proofs.Resolution.Detecting
import LedgerRules.Proofs.Rule.Reading
import LedgerRules.Proofs.Text.Folding

/-!
# Where bank text is routed to

Drafts for the accounts of a list are stored one after the other.  Detection
then answers the first of the accounts whose words are mentioned, unless the
time of its rule and that of a later one come to the same seconds and the later
one has the smaller identifier.
-/

namespace LedgerRules

namespace Rule

private theorem precedes_eq_false_iff {rule later : Rule}
    {time laterTime : Timestamp} (priority : later.priority = rule.priority)
    (created : rule.createdAt = some time)
    (createdLater : later.createdAt = some laterTime)
    (before : time.instant ≤ laterTime.instant) :
    rule.precedes later = false ↔
      time.seconds.sameNumber laterTime.seconds = true ∧
      later.id < rule.id := by
  have compared : rule.precedes later = decide
      (((time.seconds.compare? laterTime.seconds).getD .eq).then
        (compare rule.id later.id) ≠ .gt) := by
    rw [precedes, sortKey_of_dated created, sortKey_of_dated createdLater]
    simp [SortKey.order, priority]
  rw [compared, decide_eq_false_iff_not, not_not, Double.sameNumber,
    decide_eq_true_eq]
  rcases Timestamp.compare?_seconds_of_le before with less | same
  · simp [less]
  · simp [same, compare_gt_iff_gt]

end Rule

private theorem trimList_infix {Element : Type} (test : Element → Bool)
    (elements : List Element) :
    trimList test elements <:+: elements := by
  have trimmedEnd := List.dropWhile_suffix test
    (l := (elements.dropWhile test).reverse)
  rw [← List.reverse_prefix, List.reverse_reverse] at trimmedEnd
  exact trimmedEnd.isInfix.trans (List.dropWhile_suffix test).isInfix

/-- A stored rule has what a draft says, and no destination of its own. -/
structure StoredRule.IsOf (record : StoredRule) (draft : RuleDraft) : Prop where
  name : record.name = draft.name
  priority : record.priority = draft.priority
  isActive : record.isActive = draft.isActive
  ruleType : record.ruleType = draft.ruleType
  logic : record.logic = draft.logic
  conditions : record.conditions = draft.conditions
  actions : record.actions = draft.actions
  transferTo : record.transferTo = none

/-- A stored rule was created before another one. -/
def StoredRule.Before (record later : StoredRule) : Prop :=
  ∃ time laterTime, record.createdAt = some time ∧
    later.createdAt = some laterTime ∧
    time.instant < laterTime.instant

/-- Of two stored rules, the second one has a time that comes to the same
seconds as that of the first one, and a smaller identifier. -/
structure StoredRule.YieldsTo (record overtaking : StoredRule) : Prop where
  smaller : overtaking.id < record.id
  sameSeconds : ∃ time laterTime, record.createdAt = some time ∧
    overtaking.createdAt = some laterTime ∧
    time.seconds.sameNumber laterTime.seconds = true

/-- The time of a stored rule is one at which doubles lie closer than
microseconds. -/
def StoredRule.IsFine (record : StoredRule) : Prop :=
  ∀ time ∈ record.createdAt, |time.exactSeconds| ≤ Timestamp.fineSeconds

/-- Drafts were stored one after the other. -/
structure StoredInOrder (records : List StoredRule)
    (drafts : List RuleDraft) : Prop where
  ofDrafts : List.Forall₂ StoredRule.IsOf records drafts
  inOrder : records.Pairwise StoredRule.Before

namespace Coverage

/-- The rule that the stored draft of an account compiles to. -/
def detecting (record : StoredRule) (account : Account) : Rule where
  id := record.id
  name := record.name
  priority := record.priority
  kind := .accountDetection
  logic := .all
  conditions := [.rawTextContains (keywords account)]
  actions := [.setAccount account.id]
  createdAt := record.createdAt

section Detecting

variable {priority : Int} {record : StoredRule} {account : Account}
  {candidate : Candidate}

theorem compile_eq_detecting (isOf : record.IsOf (draft priority account))
    (named : account.id ≠ "") :
    record.compile = .ok (detecting record account) := by
  have conditions : Payload.Conditions.check .storage
      (StoredRule.payload record.conditions) =
      .accepted (request priority account).conditions := by
    rw [isOf.conditions]
    exact check_conditions_draft .storage priority account
  have actions : Payload.Actions.check .storage
      (StoredRule.payload record.actions) =
      .accepted (request priority account).actions := by
    rw [isOf.actions]
    exact check_actions_draft .storage priority account
  refine StoredRule.compile_eq_ok_iff.mpr
    ⟨.accountDetection, .all, _, _, ?_, ?_, conditions, actions, ?_⟩
  · rw [isOf.ruleType]
    rfl
  · rw [isOf.logic]
    rfl
  · have given : nonEmpty? (some account.id) = some account.id :=
      nonEmpty?_eq_some_iff.mpr ⟨rfl, named⟩
    have absent : nonEmpty? none = none := rfl
    simp [detecting, Payload.Conditions.compile, Payload.Actions.compile,
      request, given, absent, isOf.transferTo]

private theorem serving?_eq_detecting
    (isOf : record.IsOf (draft priority account)) (named : account.id ≠ "") :
    record.serving? .accountDetection = some (detecting record account) :=
  StoredRule.serving?_eq_some_iff.mpr
    ⟨isOf.isActive, compile_eq_detecting isOf named, rfl⟩

/-- The institution or the last digits of an account, when they are more than
blanks. -/
def HasWord (account : Account) (word : String) : Prop :=
  (account.institution = some word ∨ account.lastFour = some word) ∧
  trimBlank word ≠ ""

/-- Bank text mentions what is left of a word of an account without the blanks
around it. -/
def Tells (candidate : Candidate) (account : Account) : Prop :=
  ∃ text word, candidate.rawText = some text ∧ HasWord account word ∧
    Mentions text (trimBlank word)

/-- Bank text contains a word of an account as it stands. -/
def Quotes (candidate : Candidate) (account : Account) : Prop :=
  ∃ text word, candidate.rawText = some text ∧ HasWord account word ∧
    word.toList <:+: text.toList

theorem Quotes.tells (quotes : Quotes candidate account) :
    Tells candidate account := by
  obtain ⟨text, word, raw, hasWord, quoted⟩ := quotes
  refine ⟨text, word, raw, hasWord,
    foldList_infix ((?_ : _ <:+: word.toList).trans quoted)⟩
  rw [trimBlank, String.toList_ofList]
  exact trimList_infix isBlank word.toList

/-- Whether bank text contains a word of an account. -/
def tells (candidate : Candidate) (account : Account) : Bool :=
  match candidate.rawText with
  | some text => containsAny text (keywords account)
  | none => false

theorem tells_iff : tells candidate account = true ↔
    Tells candidate account := by
  unfold tells Tells
  cases candidate.rawText with
  | none => simp
  | some text =>
      simp only [containsAny_iff, mem_keywords, Option.some.injEq]
      constructor
      · rintro ⟨_, ⟨word, given, rfl, visible⟩, mentions⟩
        exact ⟨text, word, rfl, ⟨given, visible⟩, mentions⟩
      · rintro ⟨_, word, rfl, ⟨given, visible⟩, mentions⟩
        exact ⟨_, ⟨word, given, rfl, visible⟩, mentions⟩

theorem hold_detecting :
    Condition.hold (detecting record account).logic
      (detecting record account).conditions
      candidate = .ok (tells candidate account) := by
  have held : (Condition.rawTextContains (keywords account)).holds candidate =
      .ok (tells candidate account) := rfl
  change Condition.allHold candidate [.rawTextContains (keywords account)] = _
  rw [Condition.allHold, held]
  cases tells candidate account <;> rfl

theorem fits_detecting :
    Rule.fits candidate (detecting record account) =
      tells candidate account := by
  rw [Rule.fits, hold_detecting]

end Detecting

/-- Bank text of a candidate is to go to an account: the account qualifies, and
the text mentions a word of it. -/
structure Routed (excluded : List String) (candidate : Candidate)
    (account : Account) : Prop where
  qualifies : Qualifies excluded account
  tells : Tells candidate account

theorem routed_iff {excluded : List String} {candidate : Candidate}
    {account : Account} :
    Routed excluded candidate account ↔
      isEligible excluded account = true ∧ tells candidate account = true := by
  rw [tells_iff]
  constructor
  · rintro ⟨qualifies, told⟩
    exact ⟨(needs_iff_qualifies.mpr qualifies).eligible, told⟩
  · rintro ⟨eligible, text, word, raw, ⟨given, visible⟩, mentions⟩
    exact ⟨needs_iff_qualifies.mp ⟨eligible, keywords_ne_nil given visible⟩,
      text, word, raw, ⟨given, visible⟩, mentions⟩

instance (excluded : List String) (candidate : Candidate) :
    DecidablePred (Routed excluded candidate) :=
  fun _ => decidable_of_iff _ routed_iff.symm

/-- The first account of a list that bank text is to go to. -/
def firstRouted? (excluded : List String) (candidate : Candidate)
    (accounts : List Account) :
    Option Account :=
  accounts.find? fun account => Routed excluded candidate account

/-- Among stored drafts, the one for an account yields to that for another
one. -/
def Overtakes (records : List StoredRule) (other account : Account) : Prop :=
  ∃ record ∈ records, ∃ overtaking ∈ records,
    record.actions = .obj [("set_account", .str account.id)] ∧
    overtaking.actions = .obj [("set_account", .str other.id)] ∧
    record.YieldsTo overtaking

section Pairs

variable {priority : Int} {pairs : List (StoredRule × Account)}

/-- The rules that stored drafts compile to. -/
def rules (pairs : List (StoredRule × Account)) : List Rule :=
  pairs.map fun pair => detecting pair.1 pair.2

/-- The stored drafts of the accounts that bank text tells of. -/
def told (candidate : Candidate) (pairs : List (StoredRule × Account)) :
    List (StoredRule × Account) :=
  pairs.filter fun pair => tells candidate pair.2

theorem filterMap_serving?
    (areOf : ∀ pair ∈ pairs, pair.1.IsOf (draft priority pair.2))
    (named : ∀ pair ∈ pairs, pair.2.id ≠ "") :
    (pairs.map Prod.fst).filterMap (StoredRule.serving? .accountDetection) =
      rules pairs := by
  rw [List.filterMap_map, rules, ← List.filterMap_eq_map]
  apply List.filterMap_congr
  intro pair member
  exact serving?_eq_detecting (areOf pair member) (named pair member)

theorem rules_filter_fits (candidate : Candidate)
    (pairs : List (StoredRule × Account)) :
    (rules pairs).filter (Rule.fits candidate) =
      rules (told candidate pairs) := by
  rw [rules, List.filter_map, rules, told]
  congr 2
  funext pair
  exact fits_detecting

theorem firstAccount?_eq_head? {rules : List Rule}
    (named : ∀ rule ∈ rules, ∃ accountId, rule.account? = some accountId) :
    Settlement.firstAccount? rules = rules.head?.bind Rule.account? := by
  cases rules with
  | nil => rfl
  | cons first rest =>
      obtain ⟨accountId, sets⟩ := named first List.mem_cons_self
      simp [Settlement.firstAccount?, sets]

/-- Detection over stored drafts answers the account of the first rule, in
order, among those whose account the bank text tells of. -/
theorem detectAccount_pairs
    (areOf : ∀ pair ∈ pairs, pair.1.IsOf (draft priority pair.2))
    (named : ∀ pair ∈ pairs, pair.2.id ≠ "") (candidate : Candidate) :
    Resolution.detectAccount (pairs.map Prod.fst) candidate =
      .ok ((((rules (told candidate pairs)).mergeSort Rule.precedes).head?.bind
        Rule.account?).map .str) := by
  have inBounds : ∀ record ∈ pairs.map Prod.fst, record.isActive = true →
      ¬ record.Overflows := by
    intro record member _
    obtain ⟨pair, given, rfl⟩ := List.mem_map.mp member
    rw [← StoredRule.compile_eq_overflow_iff, compile_eq_detecting
      (areOf pair given)
      (named pair given)]
    nofun
  have haveAccounts :
      ∀ rule ∈ (rules (told candidate pairs)).mergeSort Rule.precedes,
      ∃ accountId, rule.account? = some accountId := by
    intro rule member
    obtain ⟨pair, _, rfl⟩ := List.mem_map.mp (List.mem_mergeSort.mp member)
    exact ⟨pair.2.id, rfl⟩
  refine Resolution.detectAccount_eq_ok_iff.mpr
    ⟨_, Selection.select_intent_eq_ok_iff.mpr ⟨inBounds, rfl⟩, ?_, ?_⟩
  · intro rule member
    rw [filterMap_serving? areOf named] at member
    obtain ⟨pair, _, rfl⟩ := List.mem_map.mp (List.mem_mergeSort.mp member)
    exact ⟨_, hold_detecting⟩
  · dsimp only
    rw [filterMap_serving? areOf named, ← Rule.mergeSort_filter,
      rules_filter_fits, firstAccount?_eq_head? haveAccounts]

theorem told_sublist (candidate : Candidate)
    (pairs : List (StoredRule × Account)) :
    (told candidate pairs).Sublist pairs :=
  List.filter_sublist

private theorem precedes_detecting_eq_false_iff {record later : StoredRule}
    {account other : Account} (isOf : record.IsOf (draft priority account))
    (laterIsOf : later.IsOf (draft priority other))
    (before : record.Before later) :
    (detecting record account).precedes (detecting later other) = false ↔
      record.YieldsTo later := by
  obtain ⟨time, laterTime, created, createdLater, inOrder⟩ := before
  rw [Rule.precedes_eq_false_iff (laterIsOf.priority.trans isOf.priority.symm)
    created createdLater
    inOrder.le]
  constructor
  · rintro ⟨same, smaller⟩
    exact ⟨smaller, time, laterTime, created, createdLater, same⟩
  · rintro ⟨smaller, found, laterFound, sameTime, sameLater, same⟩
    cases created.symm.trans sameTime
    cases createdLater.symm.trans sameLater
    exact ⟨same, smaller⟩

/-- Of the stored drafts that are told of, the first one decides unless it
yields to another one, and then one decides that it yields to. -/
theorem decides_or_yields {first : StoredRule × Account}
    {rest : List (StoredRule × Account)}
    (areOf : ∀ pair ∈ first :: rest, pair.1.IsOf (draft priority pair.2))
    (inOrder : (first :: rest).Pairwise fun pair later =>
      pair.1.Before later.1) :
    (∀ other ∈ rest, ¬ first.1.YieldsTo other.1) ∧
        ((rules (first :: rest)).mergeSort Rule.precedes).head?.bind
          Rule.account? =
          some first.2.id ∨
      ∃ other ∈ rest, first.1.YieldsTo other.1 ∧
        ((rules (first :: rest)).mergeSort Rule.precedes).head?.bind
          Rule.account? =
          some other.2.id := by
  obtain ⟨firstIsOf, restAreOf⟩ := List.forall_mem_cons.mp areOf
  obtain ⟨before, _⟩ := List.pairwise_cons.mp inOrder
  have yields_iff : ∀ other ∈ rest,
      (detecting first.1 first.2).precedes (detecting other.1 other.2) = false ↔
        first.1.YieldsTo other.1 := fun other member =>
    precedes_detecting_eq_false_iff firstIsOf (restAreOf other member)
      (before other member)
  rw [rules, List.map_cons]
  rcases Rule.head?_mergeSort_cons (detecting first.1 first.2) (rules rest) with
    ⟨all, head⟩ | ⟨rule, member, notPreceded, head⟩
  · refine .inl ⟨fun other member yields => ?_, by rw [← rules, head]; rfl⟩
    have preceded := all _ (List.mem_map_of_mem member)
    rw [(yields_iff other member).mpr yields] at preceded
    cases preceded
  · obtain ⟨other, given, rfl⟩ := List.mem_map.mp member
    exact .inr ⟨other, given, (yields_iff other given).mp notPreceded,
      by rw [← rules, head]; rfl⟩

/-- A stored rule does not yield to a later one while doubles lie closer than
microseconds. -/
theorem not_yieldsTo_of_isFine {record later : StoredRule}
    (before : record.Before later) (fine : record.IsFine)
    (laterFine : later.IsFine) : ¬ record.YieldsTo later := by
  rintro ⟨_, time, laterTime, created, createdLater, same⟩
  obtain ⟨sameTime, sameLater, found, foundLater, inOrder⟩ := before
  cases created.symm.trans found
  cases createdLater.symm.trans foundLater
  rw [Double.sameNumber, decide_eq_true_eq,
    Timestamp.compare?_seconds_eq_lt inOrder (fine time created)
      (laterFine laterTime createdLater)]
    at same
  cases same

end Pairs

/-- Detection answers an account that the bank text of a candidate is to go to,
if there is one, and the first one unless its rule yields to that of another
one. -/
structure Answers (records : List StoredRule) (excluded : List String)
    (candidate : Candidate) (accounts : List Account)
    (found : Option String) : Prop where
  routed : ∀ accountId, found = some accountId →
    ∃ account ∈ accounts, Routed excluded candidate account ∧
      account.id = accountId
  somewhere : ∀ account ∈ accounts, Routed excluded candidate account →
    ∃ accountId, found = some accountId
  first : ∀ account, firstRouted? excluded candidate accounts = some account →
    (found = some account.id ↔
      ¬ ∃ other ∈ accounts, Routed excluded candidate other ∧
      Overtakes records other account)
  fine : (∀ record ∈ records, record.IsFine) →
    found = (firstRouted? excluded candidate accounts).map Account.id

/-- Stored drafts with the accounts in need that they were made of, one after
the other. -/
structure Paired (priority : Int) (excluded : List String)
    (accounts : List Account) (pairs : List (StoredRule × Account)) : Prop where
  areOf : ∀ pair ∈ pairs, pair.1.IsOf (draft priority pair.2)
  inOrder : (pairs.map Prod.fst).Pairwise StoredRule.Before
  inNeed : pairs.map Prod.snd = accounts.filter fun account =>
    Needs excluded account

namespace Paired

variable {priority : Int} {excluded : List String} {accounts : List Account}
  {pairs : List (StoredRule × Account)} {candidate : Candidate}

/-- The accounts that are told of and have stored drafts are those that bank
text is to go to. -/
theorem map_snd_told (paired : Paired priority excluded accounts pairs)
    (candidate : Candidate) :
    (told candidate pairs).map Prod.snd =
      accounts.filter fun account => Routed excluded candidate account := by
  have filtered : (told candidate pairs).map Prod.snd =
      (pairs.map Prod.snd).filter (tells candidate) := by
    rw [told, List.filter_map]
    rfl
  rw [filtered, paired.inNeed, List.filter_filter]
  congr 1
  funext account
  rw [Bool.eq_iff_iff, Bool.and_eq_true, decide_eq_true_eq, decide_eq_true_eq,
    tells_iff, needs_iff_qualifies]
  constructor
  · rintro ⟨told, qualifies⟩
    exact ⟨qualifies, told⟩
  · rintro ⟨qualifies, told⟩
    exact ⟨told, qualifies⟩

theorem mem_told_iff (paired : Paired priority excluded accounts pairs)
    {account : Account} :
    account ∈ (told candidate pairs).map Prod.snd ↔
      account ∈ accounts ∧ Routed excluded candidate account := by
  rw [paired.map_snd_told, List.mem_filter, decide_eq_true_eq]

theorem firstRouted?_eq (paired : Paired priority excluded accounts pairs)
    (candidate : Candidate) :
    firstRouted? excluded candidate accounts = (told candidate pairs).head?.map
      Prod.snd := by
  rw [firstRouted?, ← List.head?_filter, ← paired.map_snd_told, List.head?_map]

theorem eq_of_id_eq (paired : Paired priority excluded accounts pairs)
    (distinct : (accounts.map Account.id).Nodup)
    {pair other : StoredRule × Account} (member : pair ∈ pairs)
    (otherMember : other ∈ pairs) (same : pair.2.id = other.2.id) :
    pair = other := by
  have distinctPairs : (pairs.map fun pair => pair.2.id).Nodup := by
    have asMapped : (pairs.map fun pair => pair.2.id) =
        (pairs.map Prod.snd).map Account.id := by
      rw [List.map_map]
      rfl
    rw [asMapped, paired.inNeed]
    exact (List.filter_sublist.map _).nodup distinct
  exact List.inj_on_of_nodup_map distinctPairs member otherMember same

theorem exists_of_actions (paired : Paired priority excluded accounts pairs)
    {record : StoredRule} (member : record ∈ pairs.map Prod.fst)
    {accountId : String}
    (sends : record.actions = .obj [("set_account", .str accountId)]) :
    ∃ pair ∈ pairs, pair.1 = record ∧ pair.2.id = accountId := by
  obtain ⟨pair, given, rfl⟩ := List.mem_map.mp member
  have made : pair.1.actions = .obj [("set_account", .str pair.2.id)] :=
    (paired.areOf pair given).actions
  rw [made] at sends
  cases sends
  exact ⟨pair, given, rfl, rfl⟩

section Telling

variable {first : StoredRule × Account} {rest : List (StoredRule × Account)}

theorem mem_of_telling (telling : told candidate pairs = first :: rest)
    {pair : StoredRule × Account} (member : pair ∈ first :: rest) :
    pair ∈ pairs :=
  (told_sublist candidate pairs).subset (telling ▸ member)

theorem before_of_telling (paired : Paired priority excluded accounts pairs)
    (telling : told candidate pairs = first :: rest) :
    (first :: rest).Pairwise fun pair later => pair.1.Before later.1 := by
  rw [← telling]
  exact (List.pairwise_map.mp paired.inOrder).sublist
    (told_sublist candidate pairs)

theorem routed_of_telling (paired : Paired priority excluded accounts pairs)
    (telling : told candidate pairs = first :: rest)
    {pair : StoredRule × Account} (member : pair ∈ first :: rest) :
    pair.2 ∈ accounts ∧ Routed excluded candidate pair.2 := by
  apply paired.mem_told_iff.mp
  rw [telling]
  exact List.mem_map_of_mem member

theorem firstRouted?_of_telling
    (paired : Paired priority excluded accounts pairs)
    (telling : told candidate pairs = first :: rest) :
    firstRouted? excluded candidate accounts = some first.2 := by
  rw [paired.firstRouted?_eq, telling]
  rfl

/-- The account that is told of first is overtaken when its stored draft yields
to another one that is told of. -/
theorem exists_overtakes_iff (paired : Paired priority excluded accounts pairs)
    (distinct : (accounts.map Account.id).Nodup)
    (telling : told candidate pairs = first :: rest) :
    (∃ other ∈ accounts, Routed excluded candidate other ∧
        Overtakes (pairs.map Prod.fst) other first.2) ↔
      ∃ other ∈ rest, first.1.YieldsTo other.1 := by
  have firstMember : first ∈ pairs := mem_of_telling telling List.mem_cons_self
  constructor
  · rintro ⟨other, given, routed, record, member, overtaking, overtakingMember,
      sends, sendsOther, yields⟩
    obtain ⟨pair, pairMember, rfl, samePair⟩ :=
      paired.exists_of_actions member sends
    obtain ⟨otherPair, otherPairMember, rfl, sameOther⟩ :=
      paired.exists_of_actions overtakingMember sendsOther
    have told := paired.mem_told_iff.mpr ⟨given, routed⟩
    rw [telling] at told
    obtain ⟨tellingPair, isTold, rfl⟩ := List.mem_map.mp told
    cases paired.eq_of_id_eq distinct pairMember firstMember samePair
    cases paired.eq_of_id_eq distinct otherPairMember
      (mem_of_telling telling isTold) sameOther
    rcases List.mem_cons.mp isTold with rfl | later
    · exact (lt_irrefl _ yields.smaller).elim
    · exact ⟨_, later, yields⟩
  · rintro ⟨other, later, yields⟩
    have isTold : other ∈ first :: rest := List.mem_cons_of_mem first later
    have otherMember : other ∈ pairs := mem_of_telling telling isTold
    obtain ⟨given, routed⟩ := paired.routed_of_telling telling isTold
    exact ⟨other.2, given, routed, first.1, List.mem_map_of_mem firstMember,
      other.1, List.mem_map_of_mem otherMember,
      (paired.areOf first firstMember).actions,
      (paired.areOf other otherMember).actions, yields⟩

private theorem answers_first (paired : Paired priority excluded accounts pairs)
    (distinct : (accounts.map Account.id).Nodup)
    (telling : told candidate pairs = first :: rest)
    (unyielding : ∀ other ∈ rest, ¬ first.1.YieldsTo other.1) :
    Answers (pairs.map Prod.fst) excluded candidate accounts
      (some first.2.id) := by
  have isFirst := paired.firstRouted?_of_telling telling
  refine ⟨?_, fun _ _ _ => ⟨_, rfl⟩, ?_, fun _ => by rw [isFirst]; rfl⟩
  · rintro _ ⟨⟩
    obtain ⟨given, routed⟩ :=
      paired.routed_of_telling telling List.mem_cons_self
    exact ⟨first.2, given, routed, rfl⟩
  · intro account same
    cases isFirst.symm.trans same
    rw [paired.exists_overtakes_iff distinct telling]
    push Not
    exact iff_of_true rfl unyielding

private theorem answers_overtaking
    (paired : Paired priority excluded accounts pairs)
    (distinct : (accounts.map Account.id).Nodup)
    (telling : told candidate pairs = first :: rest)
    {other : StoredRule × Account} (later : other ∈ rest)
    (yields : first.1.YieldsTo other.1) :
    Answers (pairs.map Prod.fst) excluded candidate accounts
      (some other.2.id) := by
  have isTold : other ∈ first :: rest := List.mem_cons_of_mem first later
  have otherMember : other ∈ pairs := mem_of_telling telling isTold
  have firstMember : first ∈ pairs := mem_of_telling telling List.mem_cons_self
  refine ⟨?_, fun _ _ _ => ⟨_, rfl⟩, ?_, ?_⟩
  · rintro _ ⟨⟩
    obtain ⟨given, routed⟩ := paired.routed_of_telling telling isTold
    exact ⟨other.2, given, routed, rfl⟩
  · intro account same
    cases (paired.firstRouted?_of_telling telling).symm.trans same
    rw [paired.exists_overtakes_iff distinct telling]
    refine iff_of_false ?_ (not_not_intro ⟨other, later, yields⟩)
    intro sameId
    cases paired.eq_of_id_eq distinct otherMember firstMember
      (Option.some.inj sameId)
    exact lt_irrefl _ yields.smaller
  · intro fine
    have before := (List.pairwise_cons.mp (paired.before_of_telling telling)).1
      other later
    have firstFine := fine first.1 (List.mem_map_of_mem firstMember)
    have otherFine := fine other.1 (List.mem_map_of_mem otherMember)
    exact (not_yieldsTo_of_isFine before firstFine otherFine yields).elim

private theorem answers_of_telling
    (paired : Paired priority excluded accounts pairs)
    (distinct : (accounts.map Account.id).Nodup)
    (telling : told candidate pairs = first :: rest) :
    Answers (pairs.map Prod.fst) excluded candidate accounts
      (((rules (first :: rest)).mergeSort Rule.precedes).head?.bind
        Rule.account?) := by
  have areOf : ∀ pair ∈ first :: rest, pair.1.IsOf (draft priority pair.2) :=
    fun pair member => paired.areOf pair (mem_of_telling telling member)
  rcases decides_or_yields areOf (paired.before_of_telling telling) with
    ⟨unyielding, found⟩ | ⟨other, later, yields, found⟩
  · rw [found]
    exact paired.answers_first distinct telling unyielding
  · rw [found]
    exact paired.answers_overtaking distinct telling later yields

end Telling

/-- Detection over stored drafts answers as it should. -/
theorem answers (paired : Paired priority excluded accounts pairs)
    (distinct : (accounts.map Account.id).Nodup) (candidate : Candidate) :
    Answers (pairs.map Prod.fst) excluded candidate accounts
      (((rules (told candidate pairs)).mergeSort Rule.precedes).head?.bind
        Rule.account?) := by
  cases telling : told candidate pairs with
  | nil =>
      have nowhere : firstRouted? excluded candidate accounts = none := by
        rw [paired.firstRouted?_eq, telling]
        rfl
      have nothing : ((rules []).mergeSort Rule.precedes).head?.bind
          Rule.account? = none := by
        simp [rules]
      rw [nothing]
      refine ⟨nofun, fun account given routed => ?_, by rw [nowhere]; nofun,
        fun _ => by
        rw [nowhere]; rfl⟩
      have isTold := paired.mem_told_iff.mpr ⟨given, routed⟩
      rw [telling] at isTold
      cases isTold
  | cons first rest => exact paired.answers_of_telling distinct telling

end Paired

private theorem exists_paired {priority : Int} {excluded : List String}
    {accounts : List Account} {records : List StoredRule}
    (stored : StoredInOrder records
      ((accounts.filter fun account => Needs excluded account).map
      (draft priority))) :
    ∃ pairs, pairs.map Prod.fst = records ∧
      Paired priority excluded accounts pairs := by
  have ofDrafts := List.forall₂_map_right_iff.mp stored.ofDrafts
  rw [List.forall₂_iff_zip] at ofDrafts
  obtain ⟨sameLength, areOf⟩ := ofDrafts
  have records_eq : (records.zip _).map Prod.fst = records :=
    List.map_fst_zip sameLength.le
  refine ⟨_, records_eq, fun pair member => areOf member, ?_,
    List.map_snd_zip sameLength.ge⟩
  rw [records_eq]
  exact stored.inOrder

/-- Drafts for accounts with distinct identifiers, stored one after the other,
all compile, and detection over them answers the first account that bank text is
to go to, unless its rule yields to that of another such account.  Text that
quotes an account always goes somewhere. -/
theorem detectAccount_of_storedInOrder {accounts : List Account}
    (distinct : (accounts.map Account.id).Nodup)
    (named : ∀ account ∈ accounts, account.id ≠ "") (priority : Int)
    (excluded : List String) {latest? : Option (List CoveringRule)}
    (nothingNewer : latest?.getD [] = []) :
    ∃ made, drafts priority excluded accounts [] latest? = .ok made ∧
      ∀ records, StoredInOrder records made →
        (∀ record ∈ records, ∃ rule, record.compile = .ok rule) ∧
        ∀ candidate, ∃ found : Option String,
          Resolution.detectAccount records candidate = .ok (found.map .str) ∧
          Answers records excluded candidate accounts found ∧
          ∀ account ∈ accounts, Qualifies excluded account →
            Quotes candidate account →
            ∃ accountId, found = some accountId := by
  have nothing : covered [] = .ok [] := rfl
  have coversNewer : covered (latest?.getD []) = .ok [] := by
    rw [nothingNewer]
    rfl
  have made := drafts_eq_uncovered nothing coversNewer priority excluded
    accounts
  rw [List.append_nil, uncovered_eq_filter distinct fun _ _ => List.not_mem_nil]
    at made
  refine ⟨_, made, fun records stored => ?_⟩
  obtain ⟨pairs, rfl, paired⟩ := exists_paired stored
  have namedPairs : ∀ pair ∈ pairs, pair.2.id ≠ "" := by
    intro pair member
    have inNeed : pair.2 ∈ pairs.map Prod.snd := List.mem_map_of_mem member
    rw [paired.inNeed] at inNeed
    exact named pair.2 (List.mem_filter.mp inNeed).1
  refine ⟨fun record member => ?_, fun candidate =>
    ⟨_, detectAccount_pairs paired.areOf namedPairs
    candidate, paired.answers distinct candidate,
      fun account given qualifies quotes => ?_⟩⟩
  · obtain ⟨pair, given, rfl⟩ := List.mem_map.mp member
    exact ⟨_, compile_eq_detecting (paired.areOf pair given)
      (namedPairs pair given)⟩
  · exact (paired.answers distinct candidate).somewhere account given
      ⟨qualifies, quotes.tells⟩

/-- Two accounts at one bank. -/
def banks : List Account := [
  { id := "giro", name := "Giro", institution := some " Union " },
  { id := "card", name := "Card", institution := some "UNION",
    lastFour := some "9876" }]

/-- A draft as it is stored with an identifier at a time. -/
def storedDraft (id : String) (wallClock : Int) (draft : RuleDraft) :
    StoredRule where
  id := id
  name := draft.name
  priority := draft.priority
  isActive := draft.isActive
  ruleType := draft.ruleType
  logic := draft.logic
  conditions := draft.conditions
  actions := draft.actions
  createdAt := some ⟨wallClock, none⟩

/-- The drafts for the two accounts as they are stored one microsecond apart,
the second one with the smaller identifier. -/
def storedBanks (wallClock : Int) : List StoredRule :=
  [("rule-b", 1), ("rule-a", 2)].zipWith
    (fun (id, later) account => storedDraft id (wallClock + later)
      (draft 100 account)) banks

theorem drafts_banks : drafts 100 ["cash"] banks [] none =
    .ok (banks.map (draft 100)) := by
  rfl

theorem storedInOrder_banks (wallClock : Int) :
    StoredInOrder (storedBanks wallClock) (banks.map (draft 100)) := by
  have isOf : ∀ id time draft, (storedDraft id time draft).IsOf draft :=
    fun _ _ _ => ⟨rfl, rfl, rfl, rfl, rfl, rfl, rfl, rfl⟩
  have before :
      StoredRule.Before
      (storedDraft "rule-b" (wallClock + 1) (draft 100 banks[0]))
      (storedDraft "rule-a" (wallClock + 2) (draft 100 banks[1])) := by
    refine ⟨_, _, rfl, rfl, ?_⟩
    change wallClock + 1 - 0 < wallClock + 2 - 0
    omega
  exact ⟨.cons (isOf _ _ _) (.cons (isOf _ _ _) .nil),
    List.pairwise_pair.mpr before⟩

/-- A payment whose bank text mentions the bank. -/
def unionPayment : Candidate :=
  { Resolution.candidateOfFive with rawText := some "PAYMENT Union 9876" }

theorem firstRouted?_banks :
    (firstRouted? ["cash"] unionPayment banks).map Account.id =
      some "giro" := by
  decide +kernel

theorem isFine_storedBanks : ∀ record ∈ storedBanks 0, record.IsFine := by
  unfold StoredRule.IsFine
  decide +kernel

theorem detectAccount_of_storedInOrder_banks :
    (banks.map Account.id).Nodup ∧ (∀ account ∈ banks, account.id ≠ "") ∧
      drafts 100 ["cash"] banks [] none = .ok (banks.map (draft 100)) ∧
      StoredInOrder (storedBanks 0) (banks.map (draft 100)) ∧
      Resolution.detectAccount (storedBanks 0) unionPayment =
        .ok (some (.str "giro")) := by
  have distinct : (banks.map Account.id).Nodup := by decide
  have named : ∀ account ∈ banks, account.id ≠ "" := by decide
  obtain ⟨made, drafted, routes⟩ :=
    detectAccount_of_storedInOrder distinct named 100 ["cash"]
      (rfl : none.getD [] = [])
  cases drafts_banks.symm.trans drafted
  obtain ⟨_, answers⟩ := routes (storedBanks 0) (storedInOrder_banks 0)
  obtain ⟨found, detects, answered, _⟩ := answers unionPayment
  rw [answered.fine isFine_storedBanks, firstRouted?_banks] at detects
  exact ⟨distinct, named, drafts_banks, storedInOrder_banks 0, detects⟩

/-- The start of the year 2300, when doubles lie two microseconds apart. -/
def year2300 : Int := 10413792000000000

/-- Times one microsecond apart come to the same seconds then, and the account
of the second rule is answered. -/
theorem overtaken_banks :
    drafts 100 ["cash"] banks [] none = .ok (banks.map (draft 100)) ∧
      StoredInOrder (storedBanks year2300) (banks.map (draft 100)) ∧
      (firstRouted? ["cash"] unionPayment banks).map Account.id = some "giro" ∧
      Resolution.detectAccount (storedBanks year2300) unionPayment =
        .ok (some (.str "card")) := by
  have stored := storedInOrder_banks year2300
  have areOf : ∀ pair ∈ (storedBanks year2300).zip banks,
      pair.1.IsOf (draft 100 pair.2) :=
    fun pair member =>
      (List.forall₂_iff_zip.mp
        (List.forall₂_map_right_iff.mp stored.ofDrafts)).2 member
  have telling : told unionPayment ((storedBanks year2300).zip banks) =
      (storedBanks year2300).zip banks :=
    List.filter_eq_self.mpr (by decide +kernel)
  have sameSeconds : Double.sameNumber
      (Timestamp.seconds ⟨year2300 + 1, none⟩)
      (Timestamp.seconds ⟨year2300 + 2, none⟩) = true := by decide +kernel
  have detects := detectAccount_pairs areOf (by decide) unionPayment
  rw [telling] at detects
  refine ⟨drafts_banks, stored, firstRouted?_banks, detects.trans ?_⟩
  rcases decides_or_yields areOf (List.pairwise_map.mp stored.inOrder) with
    ⟨unyielding, _⟩ | ⟨other, member, _, found⟩
  · exact (unyielding _ List.mem_cons_self
      ⟨by decide, _, _, rfl, rfl, sameSeconds⟩).elim
  · cases List.mem_singleton.mp member
    exact congrArg (fun answered => Except.ok (answered.map Json.str)) found

end Coverage

end LedgerRules
