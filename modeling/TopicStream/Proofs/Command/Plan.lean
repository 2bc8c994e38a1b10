import TopicStream.Command.Plan
import TopicStream.Proofs.Command.Flags

/-!
# Plans and their settings

The plan that flags describe, put down by what its settings give: the first address, credential and
language, and all topics in order. As long as no value is the name of one of the four flags, the
arguments that settings are written as describe the plan of these settings, also if a flag without
a value follows them.

## Main results

* `Plan.ofFlags_eq_iff`: the plan of arguments depends on the values of the four flags alone;
* `flags_exact`: how single flags and plans are read off settings.
-/

namespace TopicStream.Command

open Flags

namespace Plan

/-- The flags of the command that listens. -/
def flags : List String := ["--url", "--topic", "--token", "--lang"]

/-- What the values of the flags ask for, each in order. -/
inductive Answers (valuesOf : String → List String) : Except Shortage Plan → Prop
  /-- There is no plan without an address. -/
  | server (unaddressed : valuesOf "--url" = []) : Answers valuesOf (.error .server)
  /-- There is no plan without a topic. -/
  | topic (addressed : valuesOf "--url" ≠ []) (topicless : valuesOf "--topic" = []) :
      Answers valuesOf (.error .topic)
  /-- A plan has the first address, language and credential and all topics. -/
  | plan {p : Plan} (url : (valuesOf "--url").head? = some p.config.baseUrl)
      (config : p.config = (Config.forServer p.config.baseUrl).withLang
        ((valuesOf "--lang").head?.getD Config.defaultLang))
      (credential : p.credential = .ofToken ((valuesOf "--token").head?.getD ""))
      (topics : p.topics = valuesOf "--topic") (topical : p.topics ≠ []) :
      Answers valuesOf (.ok p)

variable {valuesOf : String → List String} {outcome outcome' : Except Shortage Plan}

theorem Answers.unique (h : Answers valuesOf outcome) (h' : Answers valuesOf outcome') :
    outcome = outcome' := by
  -- whether there is an address and a topic tells the three outcomes apart
  rcases h with unaddressed | ⟨addressed, topicless⟩ |
      ⟨url, config, credential, topics, topical⟩ <;>
    rcases h' with unaddressed' | ⟨addressed', topicless'⟩ |
      ⟨url', config', credential', topics', topical'⟩
  · rfl
  · exact absurd unaddressed addressed'
  · rw [unaddressed] at url'
    cases url'
  · exact absurd unaddressed' addressed
  · rfl
  · exact absurd (topics'.trans topicless) topical'
  · rw [unaddressed'] at url
    cases url
  · exact absurd (topics.trans topicless') topical
  · rename_i p p'
    have hurl : p.config.baseUrl = p'.config.baseUrl := Option.some.inj (url.symm.trans url')
    rw [hurl] at config
    -- all else of the configuration follows from the address and the language
    cases p
    cases p'
    congr
    · exact config.trans config'.symm
    · exact credential.trans credential'.symm
    · exact topics.trans topics'.symm

/-- Arguments whose flags have certain values describe what these values ask for. -/
theorem answers_ofFlags {arguments : List String}
    (h : ∀ flag ∈ flags, values flag arguments = valuesOf flag) :
    Answers valuesOf (ofFlags arguments) := by
  have hvalue (flag : String) (hflag : flag ∈ flags) :
      value? flag arguments = (valuesOf flag).head? := by
    rw [value?_eq_head?_values, h flag hflag]
  rw [ofFlags, hvalue "--url" (by decide), hvalue "--lang" (by decide),
    hvalue "--token" (by decide), h "--topic" (by decide)]
  cases hurl : valuesOf "--url" with
  | nil => exact .server hurl
  | cons url others =>
    cases htopics : valuesOf "--topic" with
    | nil => exact .topic (by simp [hurl]) htopics
    | cons topic topics =>
      refine .plan ?_ ?_ ?_ htopics.symm nofun
      · rw [hurl]
        cases (valuesOf "--lang").head? <;> rfl
      · cases (valuesOf "--lang").head? <;> rfl
      · cases (valuesOf "--token").head? <;> rfl

theorem ofFlags_eq_iff {arguments : List String}
    (h : ∀ flag ∈ flags, values flag arguments = valuesOf flag) :
    ofFlags arguments = outcome ↔ Answers valuesOf outcome :=
  ⟨fun hread => hread ▸ answers_ofFlags h, (answers_ofFlags h).unique⟩

end Plan

/-- Settings are read back, also from arguments that end with a flag without a value. -/
theorem values_argumentsOf_append_toList {settings : List Setting}
    (h : ∀ s ∈ settings, s.value ∉ Plan.flags) (ending : Option String) {flag : String}
    (hflag : flag ∈ Plan.flags) :
    values flag (argumentsOf settings ++ ending.toList) = given flag settings := by
  have hother : ∀ s ∈ settings, s.value ≠ flag := fun s hs heq => h s hs (heq ▸ hflag)
  have hread : values flag (argumentsOf settings) = given flag settings :=
    (values_argumentsOf_eq_given_iff settings).2 fun s hs => hother s (List.dropLast_subset _ hs)
  cases ending with
  | none => rw [Option.toList_none, List.append_nil, hread]
  | some last =>
    -- the argument before the ending is the value of the last setting, and so no flag
    rw [Option.toList_some, ← hread, values_concat_eq_iff, getLast?_argumentsOf]
    intro hlast
    obtain ⟨s, hs, hvalue⟩ := Option.map_eq_some_iff.1 hlast
    exact hother s (List.mem_of_getLast? hs) hvalue

/-- How flags are read. The value of a flag stands right behind its first occurrence, and its values
are the right neighbours of its occurrences. The value is the first of the values, and one more
argument is a value of the flag that the arguments end with and of no other. Of settings written one
after the other, exactly the values are read that they give to a flag, unless a value before the
last is that flag. In particular, if no value is one of the four flags of the command that listens,
then each of these has the values that are given to it, in order, and the command listens to the
first address with the first credential and language and for all topics, in order, or misses an
address or a topic that is not given. A flag without a value at the very end changes nothing. -/
theorem flags_exact :
    (∀ flag arguments, value? flag arguments = arguments[arguments.idxOf flag + 1]? ∧
      values flag arguments = ((arguments.zip arguments.tail).filter (·.1 = flag)).map (·.2)) ∧
    (∀ flag arguments, value? flag arguments = (values flag arguments).head?) ∧
    (∀ flag arguments last, values flag (arguments ++ [last]) = values flag arguments ↔
      arguments.getLast? ≠ some flag) ∧
    (∀ flag settings, values flag (argumentsOf settings) = given flag settings ↔
      ∀ s ∈ settings.dropLast, s.value ≠ flag) ∧
    ∀ settings : List Setting, (∀ s ∈ settings, s.value ∉ Plan.flags) → ∀ ending : Option String,
      (∀ flag ∈ Plan.flags,
        values flag (argumentsOf settings ++ ending.toList) = given flag settings) ∧
      ∀ outcome, Plan.ofFlags (argumentsOf settings ++ ending.toList) = outcome ↔
        Plan.Answers (given · settings) outcome := by
  refine ⟨fun flag arguments => ⟨value?_eq_getElem? flag arguments,
      values_eq_map_zip_tail flag arguments⟩, value?_eq_head?_values, fun _ => values_concat_eq_iff,
    fun _ => values_argumentsOf_eq_given_iff, fun settings h ending => ?_⟩
  have hread (flag : String) (hflag : flag ∈ Plan.flags) :=
    values_argumentsOf_append_toList h ending hflag
  exact ⟨hread, fun outcome => Plan.ofFlags_eq_iff hread⟩

/-- Settings with repeated flags, some topics among them that look like flags. -/
def repeatedSettings : List Setting :=
  [⟨"--topic", "a/*"⟩, ⟨"--lang", "de"⟩, ⟨"--topic", "--urls"⟩, ⟨"--url", "http://h"⟩,
    ⟨"--lang", "fr"⟩, ⟨"--topic", "a/*"⟩, ⟨"--url", "http://i"⟩]

/-- The first address and language count and all topics do, and the flag at the end gives no
credential. -/
theorem flags_exact_repeated :
    (∀ s ∈ repeatedSettings, s.value ∉ Plan.flags) ∧ "--topic" ∈ Plan.flags ∧
      values "--topic" (argumentsOf repeatedSettings ++ ["--token"]) = ["a/*", "--urls", "a/*"] ∧
      Plan.ofFlags (argumentsOf repeatedSettings ++ ["--token"]) =
        .ok ⟨(Config.forServer "http://h").withLang "de", .empty, ["a/*", "--urls", "a/*"]⟩ := by
  have hother : ∀ s ∈ repeatedSettings, s.value ∉ Plan.flags := by decide
  obtain ⟨-, -, -, -, hsettings⟩ := flags_exact
  obtain ⟨hread, hplan⟩ := hsettings repeatedSettings hother (some "--token")
  exact ⟨hother, by decide, hread "--topic" (by decide),
    (hplan _).2 (.plan rfl rfl rfl rfl nofun)⟩

end TopicStream.Command
