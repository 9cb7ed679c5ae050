import JudgeVortex.Python.Text

/-!
# Routing by language

`execution_routing.py`: which topic takes the submissions in a language.
-/

namespace JudgeVortex.Shared

open JudgeVortex.Python

structure ExecutorFamily where
  family : String
  topicEnv : String
  topicDefault : String
  languages : List String

def executorFamilyConfig : List ExecutorFamily :=
  [⟨"core", "KAFKA_SUBMISSIONS_TOPIC_CORE", "code_submissions_core",
      ["python", "javascript", "ruby", "php", "cpp", "c", "go", "rust", "typescript",
        "sql"]⟩,
    ⟨"java", "KAFKA_SUBMISSIONS_TOPIC_JAVA", "code_submissions_java", ["java"]⟩]

def getRouteForLanguage (language : String) : Except String ExecutorFamily :=
  match executorFamilyConfig.find? fun route =>
      decide (lower (strip language) ∈ route.languages) with
  | some route => .ok route
  | none => .error ("Unsupported submission language: " ++ language)

/-- `get_submission_topic`; `environ` holds the variables that override a topic. -/
def getSubmissionTopic (environ : String → Option String) (language : String) :
    Except String String :=
  (getRouteForLanguage language).map fun route =>
    (environ route.topicEnv).getD route.topicDefault

/-! ## Consumer groups -/

structure ConsumerGroup where
  family : String
  groupEnv : String
  groupDefault : String

def executorGroupConfig : List ConsumerGroup :=
  [⟨"core", "KAFKA_EXECUTOR_GROUP_CORE", "judge_vortex_executor_core"⟩,
    ⟨"java", "KAFKA_EXECUTOR_GROUP_JAVA", "judge_vortex_executor_java"⟩]

def getTopicConsumerGroups (environ : String → Option String) : List (String × String) :=
  List.zipWith
    (fun route group => ((environ route.topicEnv).getD route.topicDefault,
      (environ group.groupEnv).getD group.groupDefault))
    executorFamilyConfig executorGroupConfig

end JudgeVortex.Shared
