import Verdict.Proofs.Http.Answering
import Verdict.Proofs.Service.Editing
import Verdict.Proofs.Text.Percent
/-!
Where rules are found on the web. A rule is addressed by its percent-encoded name, and whatever its name is, the
address leads through the routes and the decoding of the name back to the rule, unless a fixed route stands in
the way.
-/

namespace Verdict.Http

open Text (percentEncoded)
open Time (Instant)

namespace Request

variable {request : Request}

theorem path_of_plain {path : List Char} (target : request.target.toList = '/' :: path)
    (noFragment : '#' ∉ path) (noQuery : '?' ∉ path) : request.path = '/' :: path := by
  have kept (mark : Char) (different : '/' ≠ mark) (absent : mark ∉ path) :
      ('/' :: path).takeWhile (· != mark) = '/' :: path := by
    refine List.takeWhile_eq_self_iff.2 (fun character member => bne_iff_ne.2 ?_)
    rintro rfl
    rcases List.mem_cons.1 member with same | inside
    · exact different same.symm
    · exact absent inside
  have authority : withoutAuthority ('/' :: path) = '/' :: path := by simp [withoutAuthority]
  rw [Request.path, location, target, authority, kept '#' (by decide) noFragment,
    kept '?' (by decide) noQuery]

end Request

theorem Site.respond_of_route {request : Request} {route : Route} {endpoint : Endpoint} {method : String}
    (found : Route.of? request.path = some route) (asks : request.method = method)
    (asked : route.endpoint? method = some endpoint) (direct : method ≠ "OPTIONS") (whole : method ≠ "HEAD")
    (site : Site) (now : Instant) : site.respond request now = site.serve request now endpoint := by
  simp [respond, asks, direct, found, asked, whole]

/-- The path of a rule on the web. -/
def ruleAddress (id : String) : String :=
  "/api/rules/" ++ String.ofList (percentEncoded id)

theorem ruleName?_of_ruleAddress (id : String) : ruleName? (String.ofList (percentEncoded id)) = some id := by
  rw [ruleName?, String.toList_ofList, Text.ofBytes?_percentEncoded]

section Address

variable {request : Request} {id : String} (addressed : request.target = ruleAddress id)

theorem not_mem_percentEncoded {mark : Char} (reserved : Text.isUnreserved mark = false)
    (plain : mark ≠ '%') : mark ∉ percentEncoded id := by
  intro member
  rcases Text.unreserved_or_percent_of_mem member with unreserved | percent
  · exact absurd (reserved.symm.trans unreserved) (by decide)
  · exact plain percent

include addressed

theorem pathSegments_of_ruleAddress :
    Route.pathSegments request.path = ["api", "rules", String.ofList (percentEncoded id)] := by
  have target : request.target.toList = '/' :: ("api/rules/".toList ++ percentEncoded id) := by
    simp [addressed, ruleAddress]
  have path := Request.path_of_plain target
    (by simpa using not_mem_percentEncoded (by decide) (by decide))
    (by simpa using not_mem_percentEncoded (by decide) (by decide))
  have name : Text.splitAtMark '/' (percentEncoded id) = [percentEncoded id] :=
    Text.splitAtMark_of_not_mem (not_mem_percentEncoded (by decide) (by decide))
  rw [Route.pathSegments, path]
  simp [Text.splitAtMark, name]

/-- The address of a rule leads to the rule unless its name is that of a fixed route. -/
theorem route_of_ruleAddress (named : id ≠ "") (notLoad : id ≠ "load") (notStats : id ≠ "stats") :
    Route.of? request.path = some (.rule (String.ofList (percentEncoded id))) := by
  have written {other : String} (plain : String.ofList (percentEncoded other) = other)
      (different : id ≠ other) : String.ofList (percentEncoded id) ≠ other := by
    intro same
    rw [← plain] at same
    exact different (Text.percentEncoded_inj.1 (String.ofList_injective same))
  have segment := written (by decide) named
  have load := written (by decide) notLoad
  have stats := written (by decide) notStats
  -- The fixed routes are tried before the one that takes any name, so each of their names has to be ruled out.
  rw [Route.of?, pathSegments_of_ruleAddress addressed]
  clear written
  generalize String.ofList (percentEncoded id) = name at *
  split <;> simp_all

theorem route_of_fixedName (fixed : id = "load" ∨ id = "stats") :
    Route.of? request.path = some (if id = "load" then .loadRules else .ruleStatistics) := by
  rw [Route.of?, pathSegments_of_ruleAddress addressed]
  rcases fixed with rfl | rfl
  · rfl
  · rfl

end Address

section Reached

variable {request : Request} {id : String} (addressed : request.target = ruleAddress id) (named : id ≠ "")
  (notLoad : id ≠ "load") (notStats : id ≠ "stats") (site : Site) (now : Instant)

include addressed named notLoad notStats

theorem respond_reading (reads : request.method = "GET") :
    site.respond request now = (.ofAnswer done Rule.content (site.service.getRule id), site.service) := by
  rw [Site.respond_of_route (route_of_ruleAddress addressed named notLoad notStats) reads rfl (by decide)
    (by decide)]
  simp only [Site.serve, Site.withRuleName, ruleName?_of_ruleAddress]

theorem respond_changing (changes : request.method = "PUT") {payload : Json}
    (carries : request.payload = .ok payload) :
    site.respond request now =
      Site.answered "规则更新成功" Rule.content (site.service.updateRule id payload now) := by
  rw [Site.respond_of_route (route_of_ruleAddress addressed named notLoad notStats) changes rfl (by decide)
    (by decide)]
  simp only [Site.serve, Site.withRuleName, ruleName?_of_ruleAddress, Site.withPayload, carries]

theorem respond_removing (removes : request.method = "DELETE") :
    site.respond request now =
      Site.answered "规则删除成功" Rule.content (site.service.deleteRule id now) := by
  rw [Site.respond_of_route (route_of_ruleAddress addressed named notLoad notStats) removes rfl (by decide)
    (by decide)]
  simp only [Site.serve, Site.withRuleName, ruleName?_of_ruleAddress]

end Reached

/-- A reply with data in the envelope of a message. -/
def Reply.Gives (reply : Reply) (message : String) (data : Json) : Prop :=
  reply.status = 200 ∧ reply.body = (envelope message data).text

/-- A site serves a rule at its address: it gives the rule, changes it and no other by an accepted patch whose
expressions parse, and takes it and no other out. -/
structure Serves (site : Site) (rule : Rule) : Prop where
  reads : ∀ request now, request.method = "GET" → request.target = ruleAddress rule.id →
    (site.answer request now).1.Gives done rule.toJson
  accepts : ∀ request now payload patch, request.method = "PUT" → request.target = ruleAddress rule.id →
    request.payload = .ok payload → RulePatch.accept payload = .ok patch →
    ((site.answer request now).1.status = 200 ↔ patch.Parses)
  changes : ∀ request now payload patch, request.method = "PUT" → request.target = ruleAddress rule.id →
    request.payload = .ok payload → RulePatch.accept payload = .ok patch → patch.Parses →
    (site.answer request now).1.Gives "规则更新成功" (rule.patched patch now).toJson ∧
      (site.answer request now).2.service.rules.rules =
        Rule.byPriority (site.service.rules.rules.map (Rule.patchedAt rule.id patch now))
  removes : ∀ request now, request.method = "DELETE" → request.target = ruleAddress rule.id →
    (site.answer request now).1.Gives "规则删除成功" rule.toJson ∧
      (site.answer request now).2.service.rules.rules =
        site.service.rules.rules.filter (fun other => other.id != rule.id)

theorem Site.gives_of_respond {site : Site} {request : Request} {now : Instant} {message : String}
    {data : Json} {service : Service}
    (responds : site.respond request now = (.json (envelope message data), service)) :
    (site.answer request now).1.Gives message data ∧ (site.answer request now).2.service = service := by
  unfold answer
  rw [responds]
  exact ⟨⟨rfl, rfl⟩, rfl⟩

section

variable {site : Site} {snapshot : Snapshot} {rule : Rule}
  (present : site.service.rules.snapshot = some snapshot) (wellFormed : snapshot.WellFormed)
  (member : rule ∈ snapshot.plainRules)

include present wellFormed member

/-- A rule in force is served at its address unless its name is that of a fixed route. -/
theorem serves_of_mem (notLoad : rule.id ≠ "load") (notStats : rule.id ≠ "stats") : Serves site rule := by
  have named : rule.id ≠ "" := (wellFormed.kept.rules rule member).named
  have rules : site.service.rules.rules = snapshot.plainRules := by rw [Store.rules, present]; rfl
  constructor
  case reads =>
    intro request now reads addressed
    have responds := respond_reading addressed named notLoad notStats site now reads
    rw [Service.getRule_of_mem present wellFormed member, Response.ofAnswer_ok _ Rule.write_content] at responds
    exact (Site.gives_of_respond responds).1
  case accepts =>
    intro request now payload patch changes addressed carries accepted
    have responds := respond_changing addressed named notLoad notStats site now changes carries
    have status : (site.answer request now).1.status = 200 ↔
        ∃ changed, (site.service.updateRule rule.id payload now).1 = .ok changed := by
      simp only [Site.answer, responds, Site.answered, Response.status_ofAnswer_iff Rule.write_content]
    rw [status]
    constructor
    · rintro ⟨changed, success⟩
      exact Service.parses_of_updateRule present wellFormed accepted now success
    · intro parses
      obtain ⟨patched, updated, _⟩ :=
        Service.updateRule_of_mem present wellFormed member accepted now parses
      exact ⟨rule.patched patch now, by rw [updated]⟩
  case changes =>
    intro request now payload patch changes addressed carries accepted parses
    obtain ⟨patched, updated, changed⟩ :=
      Service.updateRule_of_mem present wellFormed member accepted now parses
    have responds := respond_changing addressed named notLoad notStats site now changes carries
    rw [updated, Site.answered_ok _ Rule.write_content] at responds
    obtain ⟨gives, after⟩ := Site.gives_of_respond responds
    refine ⟨gives, ?_⟩
    rw [after, rules]
    exact changed
  case removes =>
    intro request now removes addressed
    obtain ⟨left, deleted, remaining⟩ := Service.deleteRule_of_mem present wellFormed member now
    have responds := respond_removing addressed named notLoad notStats site now removes
    rw [deleted, Site.answered_ok _ Rule.write_content] at responds
    obtain ⟨gives, after⟩ := Site.gives_of_respond responds
    refine ⟨gives, ?_⟩
    rw [after, rules]
    exact remaining

end

/-- A rule with the name of a fixed route is neither changed nor taken out: the route knows no such method. -/
theorem respond_of_fixedName {request : Request} {id : String} (addressed : request.target = ruleAddress id)
    (fixed : id = "load" ∨ id = "stats") (edits : request.method = "PUT" ∨ request.method = "DELETE")
    (site : Site) (now : Instant) : site.respond request now = (⟨405, ""⟩, site.service) := by
  have found := route_of_fixedName addressed fixed
  rcases fixed with rfl | rfl <;> rcases edits with edits | edits <;>
    simp [Site.respond, found, edits, Route.endpoint?]

theorem not_serves_of_fixedName {site : Site} {rule : Rule} (fixed : rule.id = "load" ∨ rule.id = "stats") :
    ¬Serves site rule := by
  intro serves
  let request : Request := ⟨"DELETE", ruleAddress rule.id, none, none, ""⟩
  have addressed : request.target = ruleAddress rule.id := rfl
  have removed := (serves.removes request ⟨0, 0⟩ rfl addressed).1.1
  have refused := respond_of_fixedName addressed fixed (.inr rfl) site ⟨0, 0⟩
  simp only [Site.answer, refused] at removed
  cases removed

/-- What a request that loaded rules put in force. -/
theorem exists_of_loaded {site : Site} {loading : Request} {now : Instant} (posts : loading.method = "POST")
    (addressed : loading.target = "/api/rules/load") (loaded : (site.answer loading now).1.status = 200) :
    ∃ payload ruleSet snapshot, loading.payload = .ok payload ∧ RuleSet.accept payload now = .ok ruleSet ∧
      Snapshot.ofRuleSet ruleSet now = .ok snapshot ∧
      (site.answer loading now).2.service.rules.snapshot = some snapshot := by
  have found : Route.of? loading.path = some .loadRules := by
    rw [Request.path, Request.location, addressed]
    decide
  have responds := Site.respond_of_route found posts rfl (by decide) (by decide) site now
  unfold Site.answer at loaded ⊢
  rw [responds] at loaded ⊢
  simp only [Site.serve, Site.withPayload] at loaded ⊢
  cases carries : loading.payload with
  | error refusal =>
    rw [carries] at loaded
    exact absurd loaded refusal.status_ne
  | ok payload =>
    rw [carries] at loaded
    obtain ⟨report, success⟩ := (Response.status_ofAnswer_iff LoadReport.write_content).1 loaded
    obtain ⟨ruleSet, snapshot, accepted, made, rules⟩ := Service.rules_of_load success
    exact ⟨payload, ruleSet, snapshot, rfl, accepted, made, congrArg Store.snapshot rules⟩

/-- Once a request has loaded a rule set, every rule of it is given, changed and taken out at its address,
except for rules with the names of the fixed routes beside the rules. -/
theorem loaded_rules_served_iff {site : Site} {loading : Request} {now : Instant}
    (posts : loading.method = "POST") (addressed : loading.target = "/api/rules/load")
    (loaded : (site.answer loading now).1.status = 200) :
    ∃ payload ruleSet, loading.payload = .ok payload ∧ RuleSet.accept payload now = .ok ruleSet ∧
      ∀ rule ∈ ruleSet.rules,
        (Serves (site.answer loading now).2 rule ↔ rule.id ≠ "load" ∧ rule.id ≠ "stats") := by
  -- The rules in force are the declared ones in another order, so each declared rule is found among them.
  obtain ⟨payload, ruleSet, snapshot, carries, accepted, made, present⟩ :=
    exists_of_loaded posts addressed loaded
  refine ⟨payload, ruleSet, carries, accepted, fun rule declared => ⟨fun serves => ?_, fun free => ?_⟩⟩
  · constructor
    · exact fun load => not_serves_of_fixedName (.inl load) serves
    · exact fun stats => not_serves_of_fixedName (.inr stats) serves
  · obtain ⟨_, _, _, rules⟩ := Snapshot.ofRuleSet_eq_ok made
    have member : rule ∈ snapshot.plainRules := by
      rw [rules]
      exact (Rule.byPriority_perm ruleSet.rules).mem_iff.2 declared
    exact serves_of_mem present (Snapshot.wellFormed_of_ofRuleSet made) member free.1 free.2

/-- A request to load a rule set with one rule. -/
def loadingOf (id : String) : Request :=
  ⟨"POST", "/api/rules/load", some "application/json", none,
    .text
      ("\x7b\"version\":\"1\",\"metadata\":\x7b\"name\":\"m\"\x7d,\"rules\":[\x7b\"id\":\"" ++ id ++
        "\",\"name\":\"n\",\"type\":\"approval\",\"conditions\":[\x7b\"expression\":\"a\"\x7d]," ++
        "\"actions\":[\x7b\"type\":\"flag\"\x7d]\x7d]\x7d")⟩

/-- The site after such a request. -/
def loadedWith (id : String) : Reply × Site :=
  (Site.new 1 ⟨0, 0⟩).answer (loadingOf id) ⟨1, 0⟩

theorem rule_with_slash_served :
    (loadedWith "a/b").1.status = 200 ∧ ruleAddress "a/b" = "/api/rules/a%2Fb" ∧
      ∃ rule, rule.id = "a/b" ∧ Serves (loadedWith "a/b").2 rule := by
  unfold loadedWith
  have loaded : ((Site.new 1 ⟨0, 0⟩).answer (loadingOf "a/b") ⟨1, 0⟩).1.status = 200 := by decide +kernel
  have declared : ((loadingOf "a/b").payload.toOption.bind
      (fun payload => (RuleSet.accept payload ⟨1, 0⟩).toOption)).map
        (fun ruleSet => ruleSet.rules.map Rule.id) = some ["a/b"] := by decide +kernel
  have posts : (loadingOf "a/b").method = "POST" := rfl
  have addressed : (loadingOf "a/b").target = "/api/rules/load" := rfl
  obtain ⟨payload, ruleSet, carries, accepted, served⟩ := loaded_rules_served_iff posts addressed loaded
  rw [carries] at declared
  simp only [Except.toOption, Option.bind_some, accepted, Option.map_some, Option.some.injEq] at declared
  obtain ⟨rule, single, named⟩ := List.map_eq_singleton_iff.1 declared
  refine ⟨loaded, by decide +kernel, rule, named, (served rule ?_).2 ?_⟩
  · rw [single]
    exact List.mem_singleton_self rule
  · rw [named]
    decide

/-- A request to take out a rule with the name `stats`. -/
def removalOfStats : Request :=
  ⟨"DELETE", "/api/rules/stats", none, none, ""⟩

/-- A rule with the name `stats` is put in force, but the request that should take it out is not allowed. -/
theorem rule_named_stats_stays :
    (loadedWith "stats").1.status = 200 ∧
      (loadedWith "stats").2.service.rules.rules.map Rule.id = ["stats"] ∧
      ((loadedWith "stats").2.answer removalOfStats ⟨2, 0⟩).1.status = 405 ∧
      ((loadedWith "stats").2.answer removalOfStats ⟨2, 0⟩).2.service.rules.rules.map Rule.id =
        ["stats"] := by
  have loaded : (loadedWith "stats").1.status = 200 ∧
      (loadedWith "stats").2.service.rules.rules.map Rule.id = ["stats"] := by decide +kernel
  have addressed : removalOfStats.target = ruleAddress "stats" := by decide +kernel
  have refused := respond_of_fixedName addressed (.inr rfl) (.inr rfl) (loadedWith "stats").2 ⟨2, 0⟩
  refine ⟨loaded.1, loaded.2, ?_, ?_⟩
  · simp only [Site.answer, refused]
  · simp only [Site.answer, refused]
    exact loaded.2

end Verdict.Http
