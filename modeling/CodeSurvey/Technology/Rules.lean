import CodeSurvey.Text.Basic

/-!
# What technologies are told by

Languages are told by the suffixes of files; everything else by packages that a manifest names and
by marker files. Weights are given in tenths.

## Main definitions

* `LanguageRule`, `languageRules`.
* `TechRule` and the tables `frameworkRules`, `databaseRules`, `toolRules` and `libraryRules`.
-/

namespace CodeSurvey

/-- A language, the suffixes of its files and the most that files alone can count. -/
structure LanguageRule where
  name : Text
  suffixes : List Text
  ceiling : Nat
deriving Repr, DecidableEq

/-- A technology with the packages and the marker files that show it. A package counts
`confidence`, markers count `markerConfidence`; with `proportional` the latter is scaled by the part
of the markers that is there. -/
structure TechRule where
  name : Text
  confidence : Nat := 0
  packages : List Text := []
  pythonPackages : List Text := []
  markers : List Text := []
  markerConfidence : Nat := 0
  proportional : Bool := false
deriving Repr, DecidableEq

/-- Languages by the suffixes of files, in small letters. -/
def languageRules : List LanguageRule := [
  ⟨"TypeScript", [".ts", ".tsx"], 9⟩,
  ⟨"JavaScript", [".js", ".jsx", ".mjs"], 9⟩,
  ⟨"Python", [".py", ".pyx"], 9⟩,
  ⟨"Java", [".java"], 9⟩,
  ⟨"C#", [".cs"], 9⟩,
  ⟨"Go", [".go"], 9⟩,
  ⟨"Rust", [".rs"], 9⟩,
  ⟨"PHP", [".php"], 9⟩,
  ⟨"Ruby", [".rb"], 9⟩,
  ⟨"Swift", [".swift"], 9⟩,
  ⟨"Kotlin", [".kt", ".kts"], 9⟩,
  ⟨"Dart", [".dart"], 9⟩,
  ⟨"HTML", [".html", ".htm"], 8⟩,
  ⟨"CSS", [".css", ".scss", ".sass", ".less"], 8⟩,
  ⟨"SQL", [".sql"], 8⟩,
  ⟨"Shell", [".sh", ".bash"], 7⟩,
  ⟨"YAML", [".yml", ".yaml"], 6⟩,
  ⟨"JSON", [".json"], 6⟩]

/-- Frameworks. -/
def frameworkRules : List TechRule := [
  { name := "React", confidence := 9, packages := ["react", "@types/react"],
    markers := ["src/App.jsx", "src/App.tsx", "public/index.html"], markerConfidence := 8,
    proportional := true },
  { name := "Vue.js", confidence := 9, packages := ["vue", "@vue/cli"], markers := ["src/App.vue",
    "vue.config.js"], markerConfidence := 8, proportional := true },
  { name := "Angular", confidence := 9, packages := ["@angular/core", "@angular/cli"],
    markers := ["angular.json", "src/app/app.component.ts"], markerConfidence := 9,
    proportional := true },
  { name := "Svelte", confidence := 9, packages := ["svelte"] },
  { name := "Express.js", confidence := 9, packages := ["express"] },
  { name := "Fastify", confidence := 9, packages := ["fastify"] },
  { name := "Koa", confidence := 9, packages := ["koa"] },
  { name := "NestJS", confidence := 9, packages := ["@nestjs/core"] },
  { name := "Next.js", confidence := 9, packages := ["next"] },
  { name := "Nuxt.js", confidence := 9, packages := ["nuxt"] },
  { name := "Gatsby", confidence := 9, packages := ["gatsby"] },
  { name := "React Native", confidence := 9, packages := ["react-native",
    "@react-native/metro-config"] },
  { name := "Electron", confidence := 8, packages := ["electron"] },
  { name := "Django", confidence := 9, pythonPackages := ["django"], markers := ["manage.py"],
    markerConfidence := 8, proportional := true },
  { name := "Flask", confidence := 9, pythonPackages := ["flask"] },
  { name := "FastAPI", confidence := 9, pythonPackages := ["fastapi"] },
  { name := "Tornado", confidence := 8, pythonPackages := ["tornado"] },
  { name := "Pyramid", confidence := 8, pythonPackages := ["pyramid"] },
  { name := "Laravel", markers := ["artisan", "app/Http/Controllers"], markerConfidence := 9,
    proportional := true },
  { name := "Ruby on Rails", markers := ["Gemfile", "config/routes.rb", "app/controllers"],
    markerConfidence := 9, proportional := true },
  { name := "Spring Boot", markers := ["pom.xml", "src/main/java"], markerConfidence := 8,
    proportional := true }]

/-- Databases. -/
def databaseRules : List TechRule := [
  { name := "PostgreSQL", confidence := 9, packages := ["pg", "postgres", "@types/pg"],
    pythonPackages := ["psycopg2", "psycopg2-binary", "psycopg", "asyncpg"],
    markers := ["postgresql.conf", "pg_hba.conf"], markerConfidence := 7 },
  { name := "MySQL", confidence := 9, packages := ["mysql", "mysql2"],
    pythonPackages := ["pymysql", "mysqlclient", "mysql-connector-python"], markers := ["my.cnf",
    "mysql.cnf"], markerConfidence := 7 },
  { name := "MongoDB", confidence := 9, packages := ["mongodb", "mongoose"],
    pythonPackages := ["pymongo", "motor", "mongoengine"], markers := ["mongod.conf"],
    markerConfidence := 7 },
  { name := "Redis", confidence := 8, packages := ["redis", "ioredis"],
    pythonPackages := ["redis"], markers := ["redis.conf"], markerConfidence := 7 },
  { name := "SQLite", confidence := 8, packages := ["sqlite3", "better-sqlite3"],
    pythonPackages := ["aiosqlite"] },
  { name := "Elasticsearch", confidence := 8, packages := ["@elastic/elasticsearch"],
    pythonPackages := ["elasticsearch"] }]

/-- Tools: for building, developing, packing and continuous integration. -/
def toolRules : List TechRule := [
  { name := "Webpack", confidence := 7, packages := ["webpack"], markers := ["webpack.config.js",
    "webpack.config.ts"], markerConfidence := 8 },
  { name := "Vite", confidence := 7, packages := ["vite"], markers := ["vite.config.js",
    "vite.config.ts"], markerConfidence := 8 },
  { name := "Rollup", confidence := 7, packages := ["rollup"], markers := ["rollup.config.js"],
    markerConfidence := 8 },
  { name := "Parcel", confidence := 7, packages := ["parcel"], markers := [".parcelrc"],
    markerConfidence := 8 },
  { name := "ESBuild", confidence := 7, packages := ["esbuild"], markers := ["esbuild.config.js"],
    markerConfidence := 8 },
  { name := "Babel", confidence := 7, packages := ["@babel/core"], markers := [".babelrc",
    "babel.config.js"], markerConfidence := 8 },
  { name := "TypeScript", confidence := 7, packages := ["typescript"],
    markers := ["tsconfig.json"], markerConfidence := 8 },
  { name := "ESLint", confidence := 7, packages := ["eslint"], markers := [".eslintrc.js",
    ".eslintrc.json", ".eslintrc", "eslint.config.js"], markerConfidence := 8 },
  { name := "Prettier", confidence := 7, packages := ["prettier"], markers := [".prettierrc",
    "prettier.config.js"], markerConfidence := 8 },
  { name := "Jest", confidence := 7, packages := ["jest"], markers := ["jest.config.js"],
    markerConfidence := 8 },
  { name := "Vitest", confidence := 7, packages := ["vitest"], markers := ["vitest.config.ts"],
    markerConfidence := 8 },
  { name := "Cypress", confidence := 7, packages := ["cypress"], markers := ["cypress.config.js"],
    markerConfidence := 8 },
  { name := "Playwright", confidence := 7, packages := ["@playwright/test"],
    markers := ["playwright.config.ts"], markerConfidence := 8 },
  { name := "Storybook", confidence := 7, packages := ["@storybook/core"],
    markers := [".storybook/main.js"], markerConfidence := 8 },
  { name := "Ruff", confidence := 7, pythonPackages := ["ruff"], markers := ["ruff.toml",
    ".ruff.toml"], markerConfidence := 8 },
  { name := "Black", confidence := 7, pythonPackages := ["black"] },
  { name := "Flake8", confidence := 7, pythonPackages := ["flake8"], markers := [".flake8"],
    markerConfidence := 8 },
  { name := "Pylint", confidence := 7, pythonPackages := ["pylint"], markers := [".pylintrc"],
    markerConfidence := 8 },
  { name := "mypy", confidence := 7, pythonPackages := ["mypy"], markers := ["mypy.ini"],
    markerConfidence := 8 },
  { name := "pytest", confidence := 7, pythonPackages := ["pytest"], markers := ["pytest.ini",
    "conftest.py"], markerConfidence := 8 },
  { name := "tox", confidence := 7, pythonPackages := ["tox"], markers := ["tox.ini"],
    markerConfidence := 8 },
  { name := "pre-commit", confidence := 7, pythonPackages := ["pre-commit"],
    markers := [".pre-commit-config.yaml"], markerConfidence := 8 },
  { name := "Docker", markers := ["Dockerfile", "docker-compose.yml"], markerConfidence := 8 },
  { name := "Kubernetes", markers := ["k8s", "kubernetes"], markerConfidence := 8 },
  { name := "GitHub Actions", markers := [".github/workflows"], markerConfidence := 9 },
  { name := "GitLab CI", markers := [".gitlab-ci.yml"], markerConfidence := 9 },
  { name := "Jenkins", markers := ["Jenkinsfile"], markerConfidence := 9 },
  { name := "CircleCI", markers := [".circleci/config.yml"], markerConfidence := 9 },
  { name := "Travis CI", markers := [".travis.yml"], markerConfidence := 9 }]

/-- Libraries, by what they are for. -/
def libraryRules : List TechRule := [
  { name := "UI Libraries", confidence := 8, packages := ["@mui/material", "antd",
    "react-bootstrap", "semantic-ui-react", "chakra-ui"] },
  { name := "State Management", confidence := 8, packages := ["redux", "zustand", "recoil",
    "mobx", "vuex", "pinia"] },
  { name := "HTTP Client", confidence := 7, packages := ["axios", "superagent", "got",
    "node-fetch"], pythonPackages := ["requests", "httpx", "aiohttp"] },
  { name := "Testing", confidence := 7, packages := ["@testing-library/react", "enzyme", "sinon",
    "mocha", "chai"], pythonPackages := ["hypothesis", "pytest-mock", "factory-boy"] },
  { name := "Styling", confidence := 6, packages := ["styled-components", "@emotion/react",
    "tailwindcss", "sass"] },
  { name := "Date/Time", confidence := 6, packages := ["moment", "dayjs", "date-fns", "luxon"],
    pythonPackages := ["arrow", "pendulum", "python-dateutil"] },
  { name := "Validation", confidence := 7, packages := ["joi", "yup", "zod", "ajv"],
    pythonPackages := ["pydantic", "marshmallow", "cerberus"] },
  { name := "ORM/ODM", confidence := 8, packages := ["prisma", "typeorm", "sequelize", "mongoose",
    "knex"], pythonPackages := ["sqlalchemy", "peewee", "tortoise-orm", "sqlmodel"] }]

end CodeSurvey
