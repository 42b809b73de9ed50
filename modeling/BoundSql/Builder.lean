import BoundSql.Compile
import BoundSql.Config
import BoundSql.Layout
import BoundSql.Log
import BoundSql.Text.Truncate
/-!
# Builders

A builder compiles statements in one dialect, under a configuration, and lays
them out.  The dialect of the configuration counts only for a builder that is made
from it.
-/

namespace BoundSql

structure Builder where
  dialect : Dialect
  config : Config := {}
  formatter : String → String := Layout.format config.indent

namespace Builder

def ofDialect (dialect : Dialect) : Builder := { dialect }

def ofConfig (config : Config) : Builder :=
  { dialect := config.dialect.dialect, config }

/-- The builder under another configuration, by which it lays out from now on. -/
def withConfig (builder : Builder) (config : Config) : Builder :=
  { dialect := builder.dialect, config }

def withFormatter (builder : Builder) (formatter : String → String) : Builder :=
  { builder with formatter }

/-- The event that a compiled statement reports, if statements are logged. -/
def event? (builder : Builder) (statement : Statement) (compiled : Compiled) :
    Option Event :=
  if builder.config.logsStatements then
    some (.compiled statement.kind builder.dialect.name
      (Text.truncate builder.config.loggedLength compiled.sql) compiled.parameters.size)
  else
    none

def compile (builder : Builder) (statement : Statement) : Logged Compiled := do
  let compiled ← statement.compile builder.dialect
  Logged.report (builder.event? statement compiled)
  return compiled

def write (builder : Builder) (statement : Statement) : Except Error String := do
  return (← (builder.compile statement).result).sql

def writeFormatted (builder : Builder) (statement : Statement) : Except Error String := do
  return builder.formatter (← builder.write statement)

end Builder

end BoundSql
