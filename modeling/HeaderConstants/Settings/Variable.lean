namespace HeaderConstants

/-- The environment variables that the library reads. -/
inductive Variable
  | family
  | logLevel
  deriving DecidableEq, Repr

/-- The name of a variable in the environment. -/
def Variable.name : Variable → String
  | .family => "PLATCONST_FAMILY"
  | .logLevel => "PLATCONST_LOG_LEVEL"

end HeaderConstants
