import Clearance.Text.Numeral

/-!
# Settings

The settings of the service as its environment variables determine them. One variable chooses
between three profiles, of which development is the one chosen when no other is named. A profile
fixes some settings whatever the environment says.
-/

set_option autoImplicit false

namespace Clearance

/-- The environment variables. -/
abbrev Environment : Type := List (String × String)

/-- The value of a variable, or another one if it is not set. -/
def Environment.getD (environment : Environment) (name fallback : String) : String :=
  (environment.lookup name).getD fallback

/-- The three sets of settings. -/
inductive Profile where
  | development
  | production
  | test
  deriving DecidableEq, Repr

/-- The profile that an environment chooses. -/
def Profile.ofEnvironment (environment : Environment) : Profile :=
  let name := environment.getD "DJANGO_ENV" "development"
  if name == "production" then .production else if name == "test" then .test else .development

/-- The settings of the service. -/
structure Settings where
  debug : Bool
  allowedHosts : List String
  engine : String
  databaseName : String
  databasePort : Option String
  databaseUser : Option String
  cache : String
  cacheLocation : String
  broker : String
  resultBackend : String
  /-- The longest time, in seconds, that a job may take. -/
  timeLimit : Int
  /-- The time, in seconds, after which a job ends itself as failed. -/
  softTimeLimit : Int
  morphology : String
  frameworkLevel : String
  screeningLevel : String
  /-- Whether a queued job runs at once. -/
  eager : Bool
  deriving DecidableEq, Repr

namespace Settings

/-- The time, in seconds, that a job has between its soft and its hard limit. -/
def graceTime : Int := 300

/-- The soft limit of a hard one: shorter by the grace time, yet at least half of it. -/
def softLimit (limit : Int) : Int := max (limit - graceTime) (Int.fdiv limit 2)

/-- The time limit that is in force when none is set. -/
def defaultTimeLimit : Int := 7200

/-- The last component of a path. -/
def lastComponent (path : String) : String := (path.splitOn "/").getLast?.getD path

/-- The morphology backend that is in use when none is set. -/
def defaultMorphology : String := "screening.services.morphology.NullMorphologyMatcher"

/-- The cache that each process keeps for itself. -/
def localCache : String := "django.core.cache.backends.locmem.LocMemCache"

/-- The settings that an environment determines, unless its time limit is no numeral. -/
def ofEnvironment (environment : Environment) : Except Text.NumeralFault Settings := do
  let limit ← match environment.lookup "SCREENING_JOB_TIME_LIMIT" with
    | some text => Text.readInt 10 text
    | none => pure defaultTimeLimit
  let broker := environment.getD "CELERY_BROKER_URL" "redis://localhost:6379/1"
  let resultBackend := environment.getD "CELERY_RESULT_BACKEND" "redis://localhost:6379/1"
  let morphology := environment.getD "SCREENING_MORPHOLOGY_BACKEND" defaultMorphology
  pure <| match Profile.ofEnvironment environment with
    | .development =>
      { debug := true
        allowedHosts := ["localhost", "127.0.0.1"]
        engine := "django.db.backends.sqlite3"
        databaseName := "db.sqlite3"
        databasePort := none
        databaseUser := none
        cache := localCache
        cacheLocation := "screening-dev"
        broker := broker
        resultBackend := resultBackend
        timeLimit := limit
        softTimeLimit := softLimit limit
        morphology := morphology
        frameworkLevel := "DEBUG"
        screeningLevel := "DEBUG"
        eager := false }
    | .test =>
      { debug := false
        allowedHosts := ["localhost", "127.0.0.1", "testserver"]
        engine := "django.db.backends.sqlite3"
        databaseName := ":memory:"
        databasePort := none
        databaseUser := none
        cache := localCache
        cacheLocation := "screening-tests"
        broker := broker
        resultBackend := resultBackend
        timeLimit := limit
        softTimeLimit := softLimit limit
        morphology := defaultMorphology
        frameworkLevel := "WARNING"
        screeningLevel := "WARNING"
        eager := true }
    | .production =>
      { debug := false
        allowedHosts := (environment.getD "ALLOWED_HOSTS" "").splitOn ","
        engine := "django.db.backends.postgresql"
        databaseName := lastComponent (environment.getD "DB_NAME" "screening")
        databasePort := some (environment.getD "DB_PORT" "5432")
        databaseUser := some (environment.getD "DB_USER" "")
        cache := "django.core.cache.backends.redis.RedisCache"
        cacheLocation := environment.getD "REDIS_URL" "redis://localhost:6379/2"
        broker := broker
        resultBackend := resultBackend
        timeLimit := limit
        softTimeLimit := softLimit limit
        morphology := morphology
        frameworkLevel := "WARNING"
        screeningLevel := "INFO"
        eager := false }

end Settings

end Clearance
