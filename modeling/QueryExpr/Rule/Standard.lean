import QueryExpr.Rule.Registry

/-!
# The standard rules

The rules of the language, family by family, each as a specification with its SQL. The order matters:
where two specifications give the same combination of operand types, the earlier one counts. So a
family begins with the cases that have SQL of their own and ends with the general ones.
-/

namespace QueryExpr
namespace Standard

/-! ### Unions that recur -/

/-- Types that count. -/
def intLike : String := "BOOL_INT"

/-- Types that calculate. -/
def numberLike : String := "BOOL_INT_NUMBER"

/-- Types that are stored as numbers. -/
def numberStored : String := "BOOL_INT_NUMBER_COLOR_DATEDELTA_DATETIMEDELTA_MONTHDELTA"

/-- Texts. -/
def textLike : String := "STR_CLOB"

/-- Lists with items of a type. -/
def anyList : String := "INTLIST_NUMBERLIST_STRLIST_CLOBLIST_DATELIST_DATETIMELIST"

/-- Sets with items of a type. -/
def anySet : String := "INTSET_NUMBERSET_STRSET_DATESET_DATETIMESET"

/-- Every type. -/
def anyType : String := "_".intercalate (DataType.all.map DataType.name)

/-! ### Families -/

/-- Constants, which stand for themselves. -/
def constantRules : List (NodeType × String × String) :=
  [ (.field, "NULL", ""),
    (.const .none, "NULL", ""),
    (.const .bool, "BOOL", ""),
    (.const .int, "INT", ""),
    (.const .number, "NUMBER", ""),
    (.const .str, "STR", ""),
    (.const .clob, "CLOB", ""),
    (.const .color, "COLOR", ""),
    (.const .date, "DATE", ""),
    (.const .dateTime, "DATETIME", "") ]

/-- The clock, and functions that make a value of one type from others. -/
def conversionRules : List (NodeType × String × String) :=
  [ (.func, "DATE <- today()", "trunc(sysdate)"),
    (.func, "DATETIME <- now()", "sysdate"),
    (.func, "BOOL <- bool()", "0"),
    (.func, "BOOL <- bool(NULL)", "0"),
    (.func, "BOOL <- bool(BOOL)", "{s1}"),
    (.func, "BOOL <- bool(INT_NUMBER_DATEDELTA_DATETIMEDELTA_MONTHDELTA_NULLLIST_NULLSET)",
      "(case when nvl({s1}, 0) = 0 then 0 else 1 end)"),
    (.func, "BOOL <- bool(DATE_DATETIME_STR_COLOR_GEO)",
      "(case when {s1} is null then 0 else 1 end)"),
    (.func, s!"BOOL <- bool({anyType})", "vsqlimpl_pkg.bool_{t1}({s1})"),
    (.func, "INT <- int()", "0"),
    (.func, s!"INT <- int({intLike})", "{s1}"),
    (.func, "INT <- int(NUMBER_STR_CLOB)", "vsqlimpl_pkg.int_{t1}({s1})"),
    (.func, "NUMBER <- float()", "0.0"),
    (.func, s!"NUMBER <- float({numberLike})", "{s1}"),
    (.func, s!"NUMBER <- float({textLike})", "vsqlimpl_pkg.float_{t1}({s1})"),
    (.func, s!"GEO <- geo({numberLike}, {numberLike})",
      "vsqlimpl_pkg.geo_number_number_str({s1}, {s2}, null)"),
    (.func, s!"GEO <- geo({numberLike}, {numberLike}, STR)",
      "vsqlimpl_pkg.geo_number_number_str({s1}, {s2}, {s3})"),
    (.func, "STR <- str()", "null"),
    (.func, "STR <- str(NULL)", "null"),
    (.func, "STR <- str(STR)", "{s1}"),
    (.func, "CLOB <- str(CLOB)", "{s1}"),
    (.func, "STR <- str(BOOL)",
      "(case {s1} when 0 then 'False' when null then 'None' else 'True' end)"),
    (.func, "STR <- str(INT)", "to_char({s1})"),
    (.func, "STR <- str(NUMBER)", "vsqlimpl_pkg.str_number({s1})"),
    (.func, "STR <- str(GEO)", "vsqlimpl_pkg.repr_geo({s1})"),
    (.func, "STR <- str(DATE)", "to_char({s1}, 'YYYY-MM-DD')"),
    (.func, "STR <- str(DATETIME)", "to_char({s1}, 'YYYY-MM-DD HH24:MI:SS')"),
    (.func, "STR <- str(NULLLIST)", "vsqlimpl_pkg.repr_nulllist({s1})"),
    (.func, "STR <- str(DATELIST)", "vsqlimpl_pkg.repr_datelist({s1})"),
    (.func, s!"STR <- str({anyList})", "vsqlimpl_pkg.repr_{t1}({s1})"),
    (.func, "STR <- str(NULLSET)", "vsqlimpl_pkg.repr_nullset({s1})"),
    (.func, "STR <- str(INTSET)", "vsqlimpl_pkg.repr_intset({s1})"),
    (.func, "STR <- str(NUMBERSET)", "vsqlimpl_pkg.repr_numberset({s1})"),
    (.func, "STR <- str(STRSET)", "vsqlimpl_pkg.repr_strset({s1})"),
    (.func, "STR <- str(DATESET)", "vsqlimpl_pkg.repr_dateset({s1})"),
    (.func, "STR <- str(DATETIMESET)", "vsqlimpl_pkg.repr_datetimeset({s1})"),
    (.func, s!"STR <- str({anyType})", "vsqlimpl_pkg.str_{t1}({s1})"),
    (.func, "STR <- repr(NULL)", "'None'"),
    (.func, "STR <- repr(BOOL)",
      "(case {s1} when 0 then 'False' when null then 'None' else 'True' end)"),
    (.func, "CLOB <- repr(CLOB_CLOBLIST)", "vsqlimpl_pkg.repr_{t1}({s1})"),
    (.func, "STR <- repr(DATE)", "vsqlimpl_pkg.repr_date({s1})"),
    (.func, "STR <- repr(DATELIST)", "vsqlimpl_pkg.repr_datelist({s1})"),
    (.func, "STR <- repr(NULLSET)", "vsqlimpl_pkg.repr_nullset({s1})"),
    (.func, "STR <- repr(INTSET)", "vsqlimpl_pkg.repr_intset({s1})"),
    (.func, "STR <- repr(NUMBERSET)", "vsqlimpl_pkg.repr_numberset({s1})"),
    (.func, "STR <- repr(STRSET)", "vsqlimpl_pkg.repr_strset({s1})"),
    (.func, "STR <- repr(DATESET)", "vsqlimpl_pkg.repr_dateset({s1})"),
    (.func, "STR <- repr(DATETIMESET)", "vsqlimpl_pkg.repr_datetimeset({s1})"),
    (.func, s!"STR <- repr({anyType})", "vsqlimpl_pkg.repr_{t1}({s1})"),
    (.func, "DATE <- date(INT, INT, INT)", "vsqlimpl_pkg.date_int({s1}, {s2}, {s3})"),
    (.func, "DATE <- date(DATETIME)", "trunc({s1})"),
    (.func, "DATETIME <- datetime(INT, INT, INT)", "vsqlimpl_pkg.datetime_int({s1}, {s2}, {s3})"),
    (.func, "DATETIME <- datetime(INT, INT, INT, INT)",
      "vsqlimpl_pkg.datetime_int({s1}, {s2}, {s3}, {s4})"),
    (.func, "DATETIME <- datetime(INT, INT, INT, INT, INT)",
      "vsqlimpl_pkg.datetime_int({s1}, {s2}, {s3}, {s4}, {s5})"),
    (.func, "DATETIME <- datetime(INT, INT, INT, INT, INT, INT)",
      "vsqlimpl_pkg.datetime_int({s1}, {s2}, {s3}, {s4}, {s5}, {s6})"),
    (.func, "DATETIME <- datetime(DATE)", "{s1}"),
    (.func, "DATETIME <- datetime(DATE, INT)", "({s1} + {s2}/24)"),
    (.func, "DATETIME <- datetime(DATE, INT, INT)", "({s1} + {s2}/24 + {s3}/24/60)"),
    (.func, "DATETIME <- datetime(DATE, INT, INT, INT)",
      "({s1} + {s2}/24 + {s3}/24/60 + {s4}/24/60/60)"),
    (.func, s!"INT <- len({textLike})", "nvl(length({s1}), 0)"),
    (.func, "INT <- len(NULLLIST)", "{s1}"),
    (.func, s!"INT <- len({anyList})", "vsqlimpl_pkg.len_{t1}({s1})"),
    (.func, "INT <- len(NULLSET)", "case when {s1} > 0 then 1 else {s1} end"),
    (.func, s!"INT <- len({anySet})", "vsqlimpl_pkg.len_{t1}({s1})") ]

/-- Durations, randomness, colors, collections and mathematics. -/
def functionRules : List (NodeType × String × String) :=
  [ (.func, "DATEDELTA <- timedelta()", "0"),
    (.func, "DATEDELTA <- timedelta(INT)", "{s1}"),
    (.func, "DATETIMEDELTA <- timedelta(INT, INT)", "({s1} + {s2}/86400)"),
    (.func, "MONTHDELTA <- monthdelta()", "0"),
    (.func, "MONTHDELTA <- monthdelta(INT)", "{s1}"),
    (.func, "MONTHDELTA <- years(INT)", "(12 * {s1})"),
    (.func, "MONTHDELTA <- months(INT)", "{s1}"),
    (.func, "DATEDELTA <- weeks(INT)", "(7 * {s1})"),
    (.func, "DATEDELTA <- days(INT)", "{s1}"),
    (.func, "DATETIMEDELTA <- hours(INT)", "({s1} / 24)"),
    (.func, "DATETIMEDELTA <- minutes(INT)", "({s1} / 1440)"),
    (.func, "DATETIMEDELTA <- seconds(INT)", "({s1} / 86400)"),
    (.func, "STR <- md5(STR)", "lower(rawtohex(dbms_crypto.hash(utl_raw.cast_to_raw({s1}), 2)))"),
    (.func, "NUMBER <- random()", "dbms_random.value"),
    (.func, "INT <- randrange(INT, INT)", "floor(dbms_random.value({s1}, {s2}))"),
    (.func, "INT <- seq()", "vsqlimpl_pkg.seq()"),
    (.func, s!"COLOR <- rgb({numberLike}, {numberLike}, {numberLike})",
      "vsqlimpl_pkg.rgb({s1}, {s2}, {s3})"),
    (.func, s!"COLOR <- rgb({numberLike}, {numberLike}, {numberLike}, {numberLike})",
      "vsqlimpl_pkg.rgb({s1}, {s2}, {s3}, {s4})"),
    (.func, s!"STRLIST <- list({textLike})", "vsqlimpl_pkg.list_{t1}({s1})"),
    (.func, s!"T1 <- list(NULLLIST_{anyList})", "{s1}"),
    (.func, "NULLLIST <- list(NULLSET)", "{s1}"),
    (.func, "INTLIST <- list(INTSET)", "{s1}"),
    (.func, "NUMBERLIST <- list(NUMBERSET)", "{s1}"),
    (.func, "STRLIST <- list(STRSET)", "{s1}"),
    (.func, "DATELIST <- list(DATESET)", "{s1}"),
    (.func, "DATETIMELIST <- list(DATETIMESET)", "{s1}"),
    (.func, s!"STRSET <- set({textLike})", "vsqlimpl_pkg.set_{t1}({s1})"),
    (.func, s!"T1 <- set({anySet})", "{s1}"),
    (.func, "NULLSET <- set(NULLLIST)", "case when {s1} > 0 then 1 else {s1} end"),
    (.func, "INTSET <- set(INTLIST)", "vsqlimpl_pkg.set_{t1}({s1})"),
    (.func, "NUMBERSET <- set(NUMBERLIST)", "vsqlimpl_pkg.set_{t1}({s1})"),
    (.func, "STRSET <- set(STRLIST)", "vsqlimpl_pkg.set_{t1}({s1})"),
    (.func, "DATESET <- set(DATELIST)", "vsqlimpl_pkg.set_{t1}({s1})"),
    (.func, "DATETIMESET <- set(DATETIMELIST)", "vsqlimpl_pkg.set_{t1}({s1})"),
    (.func, "NUMBER <- dist(GEO, GEO)", "vsqlimpl_pkg.dist_geo_geo({s1}, {s2})"),
    (.func, "INT <- abs(BOOL)", "{s1}"),
    (.func, "INT <- abs(INT)", "abs({s1})"),
    (.func, "NUMBER <- abs(NUMBER)", "abs({s1})"),
    (.func, s!"NUMBER <- cos({numberLike})", "cos({s1})"),
    (.func, s!"NUMBER <- sin({numberLike})", "sin({s1})"),
    (.func, s!"NUMBER <- tan({numberLike})", "tan({s1})"),
    (.func, s!"NUMBER <- sqrt({numberLike})", "sqrt(case when {s1} >= 0 then {s1} else null end)") ]

/-- Functions of the request that is being answered. -/
def requestRules : List (NodeType × String × String) :=
  [ (.func, "STR <- request_id()", "livingapi_pkg.reqid"),
    (.func, "STR <- request_method()", "livingapi_pkg.reqmethod"),
    (.func, "STR <- request_url()", "livingapi_pkg.requrl"),
    (.func, "STR <- request_header_str(STR)", "livingapi_pkg.reqheader_str({s1})"),
    (.func, "STRLIST <- request_header_strlist(STR)", "livingapi_pkg.reqheader_str({s1})"),
    (.func, "STR <- request_cookie(STR)", "livingapi_pkg.reqcookie_str({s1})"),
    (.func, "STR <- request_param_str(STR)", "livingapi_pkg.reqparam_str({s1})"),
    (.func, "STRLIST <- request_param_strlist(STR)", "livingapi_pkg.reqparam_strlist({s1})"),
    (.func, "INT <- request_param_int(STR)", "livingapi_pkg.reqparam_int({s1})"),
    (.func, "INTLIST <- request_param_intlist(STR)", "livingapi_pkg.reqparam_intlist({s1})"),
    (.func, "NUMBER <- request_param_float(STR)", "livingapi_pkg.reqparam_float({s1})"),
    (.func, "NUMBERLIST <- request_param_floatlist(STR)", "livingapi_pkg.reqparam_floatlist({s1})"),
    (.func, "DATE <- request_param_date(STR)", "livingapi_pkg.reqparam_date({s1})"),
    (.func, "DATELIST <- request_param_datelist(STR)", "livingapi_pkg.reqparam_datelist({s1})"),
    (.func, "DATETIME <- request_param_datetime(STR)", "livingapi_pkg.reqparam_datetime({s1})"),
    (.func, "DATETIMELIST <- request_param_datetimelist(STR)",
      "livingapi_pkg.reqparam_datetimelist({s1})"),
    (.func, "STR <- search()", "livingapi_pkg.global_search"),
    (.func, "STR <- lang()", "livingapi_pkg.global_lang"),
    (.func, "STR <- mode()", "livingapi_pkg.global_mode") ]

/-- Methods. -/
def methodRules : List (NodeType × String × String) :=
  [ (.meth, s!"T1 <- {textLike}.lower()", "lower({s1})"),
    (.meth, s!"T1 <- {textLike}.upper()", "upper({s1})"),
    (.meth, s!"BOOL <- {textLike}.startswith(STR_STRLIST)",
      "vsqlimpl_pkg.startswith_{t1}_{t2}({s1}, {s2})"),
    (.meth, s!"BOOL <- {textLike}.endswith(STR_STRLIST)",
      "vsqlimpl_pkg.endswith_{t1}_{t2}({s1}, {s2})"),
    (.meth, s!"T1 <- {textLike}.strip()", "vsqlimpl_pkg.strip_{t1}({s1}, null, 1, 1)"),
    (.meth, s!"T1 <- {textLike}.strip(STR) ", "vsqlimpl_pkg.strip_{t1}({s1}, {s2}, 1, 1)"),
    (.meth, s!"T1 <- {textLike}.lstrip()", "vsqlimpl_pkg.strip_{t1}({s1}, null, 1, 0)"),
    (.meth, s!"T1 <- {textLike}.lstrip(STR) ", "vsqlimpl_pkg.strip_{t1}({s1}, {s2}, 1, 0)"),
    (.meth, s!"T1 <- {textLike}.rstrip()", "vsqlimpl_pkg.strip_{t1}({s1}, null, 0, 1)"),
    (.meth, s!"T1 <- {textLike}.rstrip(STR) ", "vsqlimpl_pkg.strip_{t1}({s1}, {s2}, 0, 1)"),
    (.meth, s!"INT <- {textLike}.find({textLike})", "(instr({s1}, {s2}) - 1)"),
    (.meth, s!"INT <- {textLike}.find({textLike}, NULL)", "(instr({s1}, {s2}) - 1)"),
    (.meth, s!"INT <- {textLike}.find({textLike}, NULL, NULL)", "(instr({s1}, {s2}) - 1)"),
    (.meth, s!"INT <- {textLike}.find({textLike}, NULL_INT)",
      "vsqlimpl_pkg.find_{t1}_{t2}({s1}, {s2}, {s3}, null)"),
    (.meth, s!"INT <- {textLike}.find({textLike}, NULL_INT, NULL_INT)",
      "vsqlimpl_pkg.find_{t1}_{t2}({s1}, {s2}, {s3}, {s4})"),
    (.meth, s!"T1 <- {textLike}.replace(STR, STR)", "replace({s1}, {s2}, {s3})"),
    (.meth, "STRLIST <- STR.split()", "vsqlimpl_pkg.split_{t1}_str({s1}, null)"),
    (.meth, "CLOBLIST <- CLOB.split()", "vsqlimpl_pkg.split_{t1}_str({s1}, null)"),
    (.meth, "STRLIST <- STR.split(NULL)", "vsqlimpl_pkg.split_{t1}_str(null, null)"),
    (.meth, "CLOBLIST <- CLOB.split(NULL)", "vsqlimpl_pkg.split_{t1}_str(null, null)"),
    (.meth, "STRLIST <- STR.split(STR)", "vsqlimpl_pkg.split_{t1}_str({s1}, {s2})"),
    (.meth, "CLOBLIST <- CLOB.split(STR)", "vsqlimpl_pkg.split_{t1}_str({s1}, {s2})"),
    (.meth, "STRLIST <- STR.split(STR, NULL)", "vsqlimpl_pkg.split_{t1}_str({s1}, {s2})"),
    (.meth, "CLOBLIST <- CLOB.split(STR, NULL)", "vsqlimpl_pkg.split_{t1}_str({s1}, {s2})"),
    (.meth, "STRLIST <- STR.split(NULL, BOOL_INT)",
      "vsqlimpl_pkg.split_{t1}_str({s1}, null, {s3})"),
    (.meth, "CLOBLIST <- CLOB.split(NULL, BOOL_INT)",
      "vsqlimpl_pkg.split_{t1}_str({s1}, null, {s3})"),
    (.meth, "STRLIST <- STR.split(STR, BOOL_INT)", "vsqlimpl_pkg.split_{t1}_str({s1}, {s2}, {s3})"),
    (.meth, "CLOBLIST <- CLOB.split(STR, BOOL_INT)",
      "vsqlimpl_pkg.split_{t1}_str({s1}, {s2}, {s3})"),
    (.meth, "STR <- STR.join(STR_STRLIST)", "vsqlimpl_pkg.join_str_{t2}({s1}, {s2})"),
    (.meth, "CLOB <- STR.join(CLOB_CLOBLIST)", "vsqlimpl_pkg.join_str_{t2}({s1}, {s2})"),
    (.meth, "NUMBER <- COLOR.lum()", "vsqlimpl_pkg.lum({s1})"),
    (.meth, "INT <- DATE_DATETIME.week()", "to_number(to_char({s1}, 'IW'))") ]

/-- Attributes. -/
def attributeRules : List (NodeType × String × String) :=
  [ (.attr, "INT <- DATE_DATETIME.year", "extract(year from {s1})"),
    (.attr, "INT <- DATE_DATETIME.month", "extract(month from {s1})"),
    (.attr, "INT <- DATE_DATETIME.day", "extract(day from {s1})"),
    (.attr, "INT <- DATETIME.hour", "to_number(to_char({s1}, 'HH24'))"),
    (.attr, "INT <- DATETIME.minute", "to_number(to_char({s1}, 'MI'))"),
    (.attr, "INT <- DATETIME.second", "to_number(to_char({s1}, 'SS'))"),
    (.attr, "INT <- DATE_DATETIME.weekday", "vsqlimpl_pkg.attr_date_weekday({s1})"),
    (.attr, "INT <- DATE_DATETIME.yearday", "to_number(to_char({s1}, 'DDD'))"),
    (.attr, "INT <- DATEDELTA_DATETIMEDELTA.days", "trunc({s1})"),
    (.attr, "INT <- DATETIMEDELTA.seconds", "trunc(mod({s1}, 1) * 86400 + 0.5)"),
    (.attr, "NUMBER <- DATETIMEDELTA.total_days", "{s1}"),
    (.attr, "NUMBER <- DATETIMEDELTA.total_hours", "({s1} * 24)"),
    (.attr, "NUMBER <- DATETIMEDELTA.total_minutes", "({s1} * 1440)"),
    (.attr, "NUMBER <- DATETIMEDELTA.total_seconds", "({s1} * 86400)"),
    (.attr, "INT <- COLOR.r", "vsqlimpl_pkg.attr_color_r({s1})"),
    (.attr, "INT <- COLOR.g", "vsqlimpl_pkg.attr_color_g({s1})"),
    (.attr, "INT <- COLOR.b", "vsqlimpl_pkg.attr_color_b({s1})"),
    (.attr, "INT <- COLOR.a", "vsqlimpl_pkg.attr_color_a({s1})"),
    (.attr, "NUMBER <- GEO.lat", "vsqlimpl_pkg.attr_geo_lat({s1})"),
    (.attr, "NUMBER <- GEO.long", "vsqlimpl_pkg.attr_geo_long({s1})"),
    (.attr, "STR <- GEO.info", "vsqlimpl_pkg.attr_geo_info({s1})") ]

/-- Equality, which compares values of any types. -/
def equalityRules : List (NodeType × String × String) :=
  [ (.binary .eq, "BOOL <- NULL == NULL", "1"),
    (.binary .eq, s!"BOOL <- {anyType} == NULL", "(case when {s1} is null then 1 else 0 end)"),
    (.binary .eq, s!"BOOL <- NULL == {anyType}", "(case when {s2} is null then 1 else 0 end)"),
    (.binary .eq, s!"BOOL <- {intLike} == {intLike}", "vsqlimpl_pkg.eq_int_int({s1}, {s2})"),
    (.binary .eq, s!"BOOL <- {numberLike} == {numberLike}",
      "vsqlimpl_pkg.eq_{t1}_{t2}({s1}, {s2})"),
    (.binary .eq, "BOOL <- GEO == GEO", "vsqlimpl_pkg.eq_str_str({s1}, {s2})"),
    (.binary .eq, "BOOL <- COLOR == COLOR", "vsqlimpl_pkg.eq_int_int({s1}, {s2})"),
    (.binary .eq, s!"BOOL <- {textLike} == {textLike}", "vsqlimpl_pkg.eq_{t1}_{t2}({s1}, {s2})"),
    (.binary .eq, "BOOL <- DATE_DATETIME == T1", "vsqlimpl_pkg.eq_{t1}_{t2}({s1}, {s2})"),
    (.binary .eq, "BOOL <- DATEDELTA_MONTHDELTA_COLOR == T1",
      "vsqlimpl_pkg.eq_int_int({s1}, {s2})"),
    (.binary .eq, "BOOL <- DATETIMEDELTA == DATETIMEDELTA",
      "vsqlimpl_pkg.eq_datetimedelta_datetimedelta({s1}, {s2})"),
    (.binary .eq, s!"BOOL <- NULLLIST == NULLLIST_{anyList}",
      "vsqlimpl_pkg.eq_{t1}_{t2}({s1}, {s2})"),
    (.binary .eq, s!"BOOL <- NULLLIST_{anyList} == NULLLIST",
      "vsqlimpl_pkg.eq_{t1}_{t2}({s1}, {s2})"),
    (.binary .eq, "BOOL <- INTLIST_NUMBERLIST == INTLIST_NUMBERLIST",
      "vsqlimpl_pkg.eq_{t1}_{t2}({s1}, {s2})"),
    (.binary .eq, "BOOL <- STRLIST_CLOBLIST == STRLIST_CLOBLIST",
      "vsqlimpl_pkg.eq_{t1}_{t2}({s1}, {s2})"),
    (.binary .eq, "BOOL <- DATELIST_DATETIMELIST == DATELIST_DATETIMELIST",
      "vsqlimpl_pkg.eq_{t1}_{t2}({s1}, {s2})"),
    (.binary .eq, "BOOL <- NULLSET == NULLSET", "vsqlimpl_pkg.eq_nullset_nullset({s1}, {s2})"),
    (.binary .eq, "BOOL <- NULLSET == INTSET", "vsqlimpl_pkg.eq_nullset_intset({s1}, {s2})"),
    (.binary .eq, "BOOL <- NULLSET == NUMBERSET", "vsqlimpl_pkg.eq_nullset_numberset({s1}, {s2})"),
    (.binary .eq, "BOOL <- NULLSET == STRSET", "vsqlimpl_pkg.eq_nullset_strset({s1}, {s2})"),
    (.binary .eq, "BOOL <- NULLSET == DATESET", "vsqlimpl_pkg.eq_nullset_datetimeset({s1}, {s2})"),
    (.binary .eq, "BOOL <- NULLSET == DATETIMESET",
      "vsqlimpl_pkg.eq_nullset_datetimeset({s1}, {s2})"),
    (.binary .eq, "BOOL <- INTSET == NULLSET", "vsqlimpl_pkg.eq_intset_nullset({s1}, {s2})"),
    (.binary .eq, "BOOL <- NUMBERSET == NULLSET", "vsqlimpl_pkg.eq_numberset_nullset({s1}, {s2})"),
    (.binary .eq, "BOOL <- STRSET == NULLSET", "vsqlimpl_pkg.eq_strset_nullset({s1}, {s2})"),
    (.binary .eq, "BOOL <- DATESET == NULLSET", "vsqlimpl_pkg.eq_datetimeset_nullset({s1}, {s2})"),
    (.binary .eq, "BOOL <- DATETIMESET == NULLSET",
      "vsqlimpl_pkg.eq_datetimeset_nullset({s1}, {s2})"),
    (.binary .eq, "BOOL <- INTSET == INTSET", "vsqlimpl_pkg.eq_intset_intset({s1}, {s2})"),
    (.binary .eq, "BOOL <- NUMBERSET == NUMBERSET",
      "vsqlimpl_pkg.eq_numberset_numberset({s1}, {s2})"),
    (.binary .eq, "BOOL <- STRSET == STRSET", "vsqlimpl_pkg.eq_strset_strset({s1}, {s2})"),
    (.binary .eq, "BOOL <- DATESET_DATETIMESET == DATESET_DATETIMESET",
      "vsqlimpl_pkg.eq_datetimeset_datetimeset({s1}, {s2})"),
    (.binary .eq, s!"BOOL <- {anyType} == {anyType}",
      "(case when {s1} is null and {s2} is null then 1 else 0 end)"),
    (.binary .ne, "BOOL <- NULL != NULL", "0"),
    (.binary .ne, s!"BOOL <- {anyType} != NULL", "(case when {s1} is null then 0 else 1 end)"),
    (.binary .ne, s!"BOOL <- NULL != {anyType}", "(case when {s2} is null then 0 else 1 end)"),
    (.binary .ne, s!"BOOL <- {intLike} != {intLike}", "(1 - vsqlimpl_pkg.eq_int_int({s1}, {s2}))"),
    (.binary .ne, s!"BOOL <- {numberLike} != {numberLike}",
      "(1 - vsqlimpl_pkg.eq_{t1}_{t2}({s1}, {s2}))"),
    (.binary .ne, "BOOL <- GEO != GEO", "(1 - vsqlimpl_pkg.eq_str_str({s1}, {s2}))"),
    (.binary .ne, "BOOL <- COLOR != COLOR", "(1 - vsqlimpl_pkg.eq_int_int({s1}, {s2}))"),
    (.binary .ne, s!"BOOL <- {textLike} != {textLike}",
      "(1 - vsqlimpl_pkg.eq_{t1}_{t2}({s1}, {s2}))"),
    (.binary .ne, "BOOL <- DATE_DATETIME != T1", "(1 - vsqlimpl_pkg.eq_{t1}_{t2}({s1}, {s2}))"),
    (.binary .ne, "BOOL <- DATEDELTA_MONTHDELTA_COLOR != T1",
      "(1 - vsqlimpl_pkg.eq_int_int({s1}, {s2}))"),
    (.binary .ne, "BOOL <- DATETIMEDELTA != DATETIMEDELTA",
      "(1 - vsqlimpl_pkg.eq_datetimedelta_datetimedelta({s1}, {s2}))"),
    (.binary .ne, s!"BOOL <- NULLLIST != NULLLIST_{anyList}",
      "(1 - vsqlimpl_pkg.eq_{t1}_{t2}({s1}, {s2}))"),
    (.binary .ne, s!"BOOL <- NULLLIST_{anyList} != NULLLIST",
      "(1 - vsqlimpl_pkg.eq_{t1}_{t2}({s1}, {s2}))"),
    (.binary .ne, "BOOL <- INTLIST_NUMBERLIST != INTLIST_NUMBERLIST",
      "(1 - vsqlimpl_pkg.eq_{t1}_{t2}({s1}, {s2}))"),
    (.binary .ne, "BOOL <- STRLIST_CLOBLIST != STRLIST_CLOBLIST",
      "(1 - vsqlimpl_pkg.eq_{t1}_{t2}({s1}, {s2}))"),
    (.binary .ne, "BOOL <- DATELIST_DATETIMELIST != DATELIST_DATETIMELIST",
      "(1 - vsqlimpl_pkg.eq_{t1}_{t2}({s1}, {s2}))"),
    (.binary .ne, "BOOL <- NULLSET != NULLSET",
      "(1 - vsqlimpl_pkg.eq_nullset_nullset({s1}, {s2}))"),
    (.binary .ne, "BOOL <- NULLSET != INTSET", "(1 - vsqlimpl_pkg.eq_nullset_intset({s1}, {s2}))"),
    (.binary .ne, "BOOL <- NULLSET != NUMBERSET",
      "(1 - vsqlimpl_pkg.eq_nullset_numberset({s1}, {s2}))"),
    (.binary .ne, "BOOL <- NULLSET != STRSET", "(1 - vsqlimpl_pkg.eq_nullset_strset({s1}, {s2}))"),
    (.binary .ne, "BOOL <- NULLSET != DATESET",
      "(1 - vsqlimpl_pkg.eq_nullset_datetimeset({s1}, {s2}))"),
    (.binary .ne, "BOOL <- NULLSET != DATETIMESET",
      "(1 - vsqlimpl_pkg.eq_nullset_datetimeset({s1}, {s2}))"),
    (.binary .ne, "BOOL <- INTSET != NULLSET", "(1 - vsqlimpl_pkg.eq_intset_nullset({s1}, {s2}))"),
    (.binary .ne, "BOOL <- NUMBERSET != NULLSET",
      "(1 - vsqlimpl_pkg.eq_numberset_nullset({s1}, {s2}))"),
    (.binary .ne, "BOOL <- STRSET != NULLSET", "(1 - vsqlimpl_pkg.eq_strset_nullset({s1}, {s2}))"),
    (.binary .ne, "BOOL <- DATESET != NULLSET",
      "(1 - vsqlimpl_pkg.eq_datetimeset_nullset({s1}, {s2}))"),
    (.binary .ne, "BOOL <- DATETIMESET != NULLSET",
      "(1 - vsqlimpl_pkg.eq_datetimeset_nullset({s1}, {s2}))"),
    (.binary .ne, "BOOL <- INTSET != INTSET", "(1 - vsqlimpl_pkg.eq_intset_intset({s1}, {s2}))"),
    (.binary .ne, "BOOL <- NUMBERSET != NUMBERSET",
      "(1 - vsqlimpl_pkg.eq_numberset_numberset({s1}, {s2}))"),
    (.binary .ne, "BOOL <- STRSET != STRSET", "(1 - vsqlimpl_pkg.eq_strset_strset({s1}, {s2}))"),
    (.binary .ne, "BOOL <- DATESET_DATETIMESET != DATESET_DATETIMESET",
      "(1 - vsqlimpl_pkg.eq_datetimeset_datetimeset({s1}, {s2}))"),
    (.binary .ne, s!"BOOL <- {anyType} != {anyType}",
      "(case when {s1} is null and {s2} is null then 0 else 1 end)") ]

/-- Comparison by order. -/
def orderRules : List (NodeType × String × String) :=
  [ (.binary .gt, "BOOL <- NULL > NULL", "0"),
    (.binary .gt, s!"BOOL <- {anyType} > NULL", "(case when {s1} is null then 0 else null end)"),
    (.binary .gt, s!"BOOL <- NULL > {anyType}", "(case when {s2} is null then 0 else null end)"),
    (.binary .gt, s!"BOOL <- {intLike} > {intLike}",
      "decode(vsqlimpl_pkg.cmp_int_int({s1}, {s2}), 1, 1, null, null, 0)"),
    (.binary .gt, s!"BOOL <- {numberLike} > {numberLike}",
      "decode(vsqlimpl_pkg.cmp_{t1}_{t2}({s1}, {s2}), 1, 1, null, null, 0)"),
    (.binary .gt, s!"BOOL <- {textLike} > {textLike}",
      "decode(vsqlimpl_pkg.cmp_{t1}_{t2}({s1}, {s2}), 1, 1, null, null, 0)"),
    (.binary .gt, "BOOL <- DATE_DATETIME > T1",
      "decode(vsqlimpl_pkg.cmp_{t1}_{t2}({s1}, {s2}), 1, 1, null, null, 0)"),
    (.binary .gt, "BOOL <- DATEDELTA > DATEDELTA",
      "decode(vsqlimpl_pkg.cmp_int_int({s1}, {s2}), 1, 1, null, null, 0)"),
    (.binary .gt, "BOOL <- DATETIMEDELTA > DATETIMEDELTA",
      "decode(vsqlimpl_pkg.cmp_number_number({s1}, {s2}), 1, 1, null, null, 0)"),
    (.binary .gt, "BOOL <- INTLIST_NUMBERLIST > INTLIST_NUMBERLIST",
      "decode(vsqlimpl_pkg.cmp_{t1}_{t2}({s1}, {s2}), 1, 1, null, null, 0)"),
    (.binary .gt, "BOOL <- STRLIST_CLOBLIST > STRLIST_CLOBLIST",
      "decode(vsqlimpl_pkg.cmp_{t1}_{t2}({s1}, {s2}), 1, 1, null, null, 0)"),
    (.binary .gt, "BOOL <- DATELIST_DATETIMELIST > T1",
      "decode(vsqlimpl_pkg.cmp_{t1}_{t2}({s1}, {s2}), 1, 1, null, null, 0)"),
    (.binary .gt, s!"BOOL <- NULLLIST > NULLLIST_{anyList}",
      "decode(vsqlimpl_pkg.cmp_{t1}_{t2}({s1}, {s2}), 1, 1, null, null, 0)"),
    (.binary .gt, s!"BOOL <- NULLLIST_{anyList} > NULLLIST",
      "decode(vsqlimpl_pkg.cmp_{t1}_{t2}({s1}, {s2}), 1, 1, null, null, 0)"),
    (.binary .ge, "BOOL <- NULL >= NULL", "1"),
    (.binary .ge, s!"BOOL <- {anyType} >= NULL", "(case when {s1} is null then 1 else null end)"),
    (.binary .ge, s!"BOOL <- NULL >= {anyType}", "(case when {s2} is null then 1 else null end)"),
    (.binary .ge, s!"BOOL <- {intLike} >= {intLike}",
      "decode(vsqlimpl_pkg.cmp_int_int({s1}, {s2}), -1, 0, null, null, 1)"),
    (.binary .ge, s!"BOOL <- {numberLike} >= {numberLike}",
      "decode(vsqlimpl_pkg.cmp_{t1}_{t2}({s1}, {s2}), -1, 0, null, null, 1)"),
    (.binary .ge, s!"BOOL <- {textLike} >= {textLike}",
      "decode(vsqlimpl_pkg.cmp_{t1}_{t2}({s1}, {s2}), -1, 0, null, null, 1)"),
    (.binary .ge, "BOOL <- DATE_DATETIME >= T1",
      "decode(vsqlimpl_pkg.cmp_{t1}_{t2}({s1}, {s2}), -1, 0, null, null, 1)"),
    (.binary .ge, "BOOL <- DATEDELTA >= DATEDELTA",
      "decode(vsqlimpl_pkg.cmp_int_int({s1}, {s2}), -1, 0, null, null, 1)"),
    (.binary .ge, "BOOL <- DATETIMEDELTA >= DATETIMEDELTA",
      "decode(vsqlimpl_pkg.cmp_number_number({s1}, {s2}), -1, 0, null, null, 1)"),
    (.binary .ge, "BOOL <- INTLIST_NUMBERLIST >= INTLIST_NUMBERLIST",
      "decode(vsqlimpl_pkg.cmp_{t1}_{t2}({s1}, {s2}), -1, 0, null, null, 1)"),
    (.binary .ge, "BOOL <- STRLIST_CLOBLIST >= STRLIST_CLOBLIST",
      "decode(vsqlimpl_pkg.cmp_{t1}_{t2}({s1}, {s2}), -1, 0, null, null, 1)"),
    (.binary .ge, "BOOL <- DATELIST_DATETIMELIST >= T1",
      "decode(vsqlimpl_pkg.cmp_{t1}_{t2}({s1}, {s2}), -1, 0, null, null, 1)"),
    (.binary .ge, s!"BOOL <- NULLLIST >= NULLLIST_{anyList}",
      "decode(vsqlimpl_pkg.cmp_{t1}_{t2}({s1}, {s2}), -1, 0, null, null, 1)"),
    (.binary .ge, s!"BOOL <- NULLLIST_{anyList} >= NULLLIST",
      "decode(vsqlimpl_pkg.cmp_{t1}_{t2}({s1}, {s2}), -1, 0, null, null, 1)"),
    (.binary .lt, "BOOL <- NULL < NULL", "0"),
    (.binary .lt, s!"BOOL <- {anyType} < NULL", "(case when {s1} is null then 0 else null end)"),
    (.binary .lt, s!"BOOL <- NULL < {anyType}", "(case when {s2} is null then 0 else null end)"),
    (.binary .lt, s!"BOOL <- {intLike} < {intLike}",
      "decode(vsqlimpl_pkg.cmp_int_int({s1}, {s2}), -1, 1, null, null, 0)"),
    (.binary .lt, s!"BOOL <- {numberLike} < {numberLike}",
      "decode(vsqlimpl_pkg.cmp_{t1}_{t2}({s1}, {s2}), -1, 1, null, null, 0)"),
    (.binary .lt, s!"BOOL <- {textLike} < {textLike}",
      "decode(vsqlimpl_pkg.cmp_{t1}_{t2}({s1}, {s2}), -1, 1, null, null, 0)"),
    (.binary .lt, "BOOL <- DATE_DATETIME < T1",
      "decode(vsqlimpl_pkg.cmp_{t1}_{t2}({s1}, {s2}), -1, 1, null, null, 0)"),
    (.binary .lt, "BOOL <- DATEDELTA < DATEDELTA",
      "decode(vsqlimpl_pkg.cmp_int_int({s1}, {s2}), -1, 1, null, null, 0)"),
    (.binary .lt, "BOOL <- DATETIMEDELTA < DATETIMEDELTA",
      "decode(vsqlimpl_pkg.cmp_number_number({s1}, {s2}), -1, 1, null, null, 0)"),
    (.binary .lt, "BOOL <- INTLIST_NUMBERLIST < INTLIST_NUMBERLIST",
      "decode(vsqlimpl_pkg.cmp_{t1}_{t2}({s1}, {s2}), -1, 1, null, null, 0)"),
    (.binary .lt, "BOOL <- STRLIST_CLOBLIST < STRLIST_CLOBLIST",
      "decode(vsqlimpl_pkg.cmp_{t1}_{t2}({s1}, {s2}), -1, 1, null, null, 0)"),
    (.binary .lt, "BOOL <- DATELIST_DATETIMELIST < T1",
      "decode(vsqlimpl_pkg.cmp_{t1}_{t2}({s1}, {s2}), -1, 1, null, null, 0)"),
    (.binary .lt, s!"BOOL <- NULLLIST < NULLLIST_{anyList}",
      "decode(vsqlimpl_pkg.cmp_{t1}_{t2}({s1}, {s2}), -1, 1, null, null, 0)"),
    (.binary .lt, s!"BOOL <- NULLLIST_{anyList} < NULLLIST",
      "decode(vsqlimpl_pkg.cmp_{t1}_{t2}({s1}, {s2}), -1, 1, null, null, 0)"),
    (.binary .le, "BOOL <- NULL <= NULL", "1"),
    (.binary .le, s!"BOOL <- {anyType} <= NULL", "(case when {s1} is null then 1 else null end)"),
    (.binary .le, s!"BOOL <- NULL <= {anyType}", "(case when {s2} is null then 1 else null end)"),
    (.binary .le, s!"BOOL <- {intLike} <= {intLike}",
      "decode(vsqlimpl_pkg.cmp_int_int({s1}, {s2}), 1, 0, null, null, 1)"),
    (.binary .le, s!"BOOL <- {numberLike} <= {numberLike}",
      "decode(vsqlimpl_pkg.cmp_{t1}_{t2}({s1}, {s2}), 1, 0, null, null, 1)"),
    (.binary .le, s!"BOOL <- {textLike} <= {textLike}",
      "decode(vsqlimpl_pkg.cmp_{t1}_{t2}({s1}, {s2}), 1, 0, null, null, 1)"),
    (.binary .le, "BOOL <- DATE_DATETIME <= T1",
      "decode(vsqlimpl_pkg.cmp_{t1}_{t2}({s1}, {s2}), 1, 0, null, null, 1)"),
    (.binary .le, "BOOL <- DATEDELTA <= DATEDELTA",
      "decode(vsqlimpl_pkg.cmp_int_int({s1}, {s2}), 1, 0, null, null, 1)"),
    (.binary .le, "BOOL <- DATETIMEDELTA <= DATETIMEDELTA",
      "decode(vsqlimpl_pkg.cmp_number_number({s1}, {s2}), 1, 0, null, null, 1)"),
    (.binary .le, "BOOL <- INTLIST_NUMBERLIST <= INTLIST_NUMBERLIST",
      "decode(vsqlimpl_pkg.cmp_{t1}_{t2}({s1}, {s2}), 1, 0, null, null, 1)"),
    (.binary .le, "BOOL <- STRLIST_CLOBLIST <= STRLIST_CLOBLIST",
      "decode(vsqlimpl_pkg.cmp_{t1}_{t2}({s1}, {s2}), 1, 0, null, null, 1)"),
    (.binary .le, "BOOL <- DATELIST_DATETIMELIST <= T1",
      "decode(vsqlimpl_pkg.cmp_{t1}_{t2}({s1}, {s2}), 1, 0, null, null, 1)"),
    (.binary .le, s!"BOOL <- NULLLIST <= NULLLIST_{anyList}",
      "decode(vsqlimpl_pkg.cmp_{t1}_{t2}({s1}, {s2}), 1, 0, null, null, 1)"),
    (.binary .le, s!"BOOL <- NULLLIST_{anyList} <= NULLLIST",
      "decode(vsqlimpl_pkg.cmp_{t1}_{t2}({s1}, {s2}), 1, 0, null, null, 1)") ]

/-- Arithmetic and shifts. -/
def arithmeticRules : List (NodeType × String × String) :=
  [ (.binary .add, s!"INT <- {intLike} + {intLike}", "({s1} + {s2})"),
    (.binary .add, s!"NUMBER <- {numberLike} + {numberLike}", "({s1} + {s2})"),
    (.binary .add, "STR <- STR + STR", "({s1} || {s2})"),
    (.binary .add, s!"CLOB <- {textLike} + {textLike}", "({s1} || {s2})"),
    (.binary .add, "INTLIST <- INTLIST + INTLIST", "vsqlimpl_pkg.add_intlist_intlist({s1}, {s2})"),
    (.binary .add, "NUMBERLIST <- INTLIST_NUMBERLIST + INTLIST_NUMBERLIST",
      "vsqlimpl_pkg.add_{t1}_{t2}({s1}, {s2})"),
    (.binary .add, "STRLIST <- STRLIST + STRLIST", "vsqlimpl_pkg.add_strlist_strlist({s1}, {s2})"),
    (.binary .add, "CLOBLIST <- STRLIST_CLOBLIST + STRLIST_CLOBLIST",
      "vsqlimpl_pkg.add_{t1}_{t2}({s1}, {s2})"),
    (.binary .add, "T1 <- DATELIST_DATETIMELIST + T1", "vsqlimpl_pkg.add_{t1}_{t2}({s1}, {s2})"),
    (.binary .add, "NULLLIST <- NULLLIST + NULLLIST", "({s1} + {s2})"),
    (.binary .add, s!"T2 <- NULLLIST + NULLLIST_{anyList}",
      "vsqlimpl_pkg.add_{t1}_{t2}({s1}, {s2})"),
    (.binary .add, s!"T1 <- NULLLIST_{anyList} + NULLLIST",
      "vsqlimpl_pkg.add_{t1}_{t2}({s1}, {s2})"),
    (.binary .add, "DATE <- DATE + DATEDELTA", "({s1} + {s2})"),
    (.binary .add, "DATETIME <- DATETIME + DATEDELTA_DATETIMEDELTA", "({s1} + {s2})"),
    (.binary .add, "T1 <- DATE_DATETIME + MONTHDELTA", "vsqlimpl_pkg.add_{t1}_months({s1}, {s2})"),
    (.binary .add, "T2 <- MONTHDELTA + DATE_DATETIME", "vsqlimpl_pkg.add_months_{t2}({s1}, {s2})"),
    (.binary .add, "DATEDELTA <- DATEDELTA + DATEDELTA", "({s1} + {s2})"),
    (.binary .add, "DATETIMEDELTA <- DATEDELTA_DATETIMEDELTA + DATEDELTA_DATETIMEDELTA",
      "({s1} + {s2})"),
    (.binary .add, "MONTHDELTA <- MONTHDELTA + MONTHDELTA", "({s1} + {s2})"),
    (.binary .sub, s!"INT <- {intLike} - {intLike}", "({s1} - {s2})"),
    (.binary .sub, s!"NUMBER <- {numberLike} - {numberLike}", "({s1} - {s2})"),
    (.binary .sub, "DATE <- DATE - DATEDELTA", "({s1} - {s2})"),
    (.binary .sub, "DATEDELTA <- DATE - DATE", "({s1} - {s2})"),
    (.binary .sub, "DATETIMEDELTA <- DATETIME - DATETIME", "({s1} - {s2})"),
    (.binary .sub, "T1 <- DATE_DATETIME - MONTHDELTA", "vsqlimpl_pkg.add_{t1}_months({s1}, -{s2})"),
    (.binary .sub, "DATETIME <- DATETIME - DATEDELTA_DATETIMEDELTA", "({s1} - {s2})"),
    (.binary .sub, "T1 <- DATEDELTA_MONTHDELTA - T1", "({s1} - {s2})"),
    (.binary .sub, "DATETIMEDELTA <- DATEDELTA_DATETIMEDELTA - DATEDELTA_DATETIMEDELTA",
      "({s1} - {s2})"),
    (.binary .mul, s!"INT <- {intLike} * {intLike}", "({s1} * {s2})"),
    (.binary .mul, s!"NUMBER <- {numberLike} * {numberLike}", "({s1} * {s2})"),
    (.binary .mul, s!"T2 <- {intLike} * DATEDELTA_DATETIMEDELTA_MONTHDELTA", "({s1} * {s2})"),
    (.binary .mul, "DATETIMEDELTA <- NUMBER * DATETIMEDELTA", "({s1} * {s2})"),
    (.binary .mul, s!"T2 <- {intLike} * {textLike}", "vsqlimpl_pkg.mul_int_{t2}({s1}, {s2})"),
    (.binary .mul, s!"T1 <- {textLike} * {intLike}", "vsqlimpl_pkg.mul_{t1}_int({s1}, {s2})"),
    (.binary .mul, s!"T2 <- {intLike} * {anyList}", "vsqlimpl_pkg.mul_int_{t2}({s1}, {s2})"),
    (.binary .mul, s!"T1 <- {anyList} * {intLike}", "vsqlimpl_pkg.mul_{t1}_int({s1}, {s2})"),
    (.binary .mul, s!"NULLLIST <- {intLike} * NULLLIST", "({s1} * {s2})"),
    (.binary .mul, s!"NULLLIST <- NULLLIST * {intLike}", "({s1} * {s2})"),
    (.binary .trueDiv, "INT <- BOOL / BOOL", "({s1} / {s2})"),
    (.binary .trueDiv, s!"NUMBER <- {numberLike} / {numberLike}", "({s1} / {s2})"),
    (.binary .trueDiv, s!"DATETIMEDELTA <- DATETIMEDELTA / {numberLike}", "({s1} / {s2})"),
    (.binary .floorDiv, s!"INT <- {numberLike} // {numberLike}",
      "vsqlimpl_pkg.floordiv_{t1}_{t2}({s1}, {s2})"),
    (.binary .floorDiv, s!"T1 <- DATEDELTA_MONTHDELTA // {intLike}",
      "vsqlimpl_pkg.floordiv_int_int({s1}, {s2})"),
    (.binary .floorDiv, s!"DATEDELTA <- DATETIMEDELTA // {numberLike}",
      "vsqlimpl_pkg.floordiv_number_int({s1}, {s2})"),
    (.binary .mod, s!"INT <- {intLike} % {intLike}", "vsqlimpl_pkg.mod_int_int({s1}, {s2})"),
    (.binary .mod, s!"NUMBER <- {numberLike} % {numberLike}",
      "vsqlimpl_pkg.mod_{t1}_{t2}({s1}, {s2})"),
    (.binary .mod, "COLOR <- COLOR % COLOR", "vsqlimpl_pkg.mod_color_color({s1}, {s2})"),
    (.binary .shiftLeft, s!"INT <- {intLike} << {intLike}", "trunc({s1} * power(2, {s2}))"),
    (.binary .shiftRight, s!"INT <- {intLike} >> {intLike}", "trunc({s1} / power(2, {s2}))") ]

/-- Conjunction and disjunction, which give one of their operands. -/
def logicRules : List (NodeType × String × String) :=
  [ (.binary .and, s!"T1 <- {anyType} ? NULL", "null"),
    (.binary .and, s!"T2 <- NULL ? {anyType}", "null"),
    (.binary .and, "BOOL <- BOOL ? BOOL", "(case when {s1} = 1 then {s2} else 0 end)"),
    (.binary .and, s!"INT <- {intLike} ? {intLike}",
      "(case when nvl({s1}, 0) != 0 then {s2} else {s1} end)"),
    (.binary .and, s!"NUMBER <- {numberLike} ? {numberLike}",
      "(case when nvl({s1}, 0) != 0 then {s2} else {s1} end)"),
    (.binary .and, "STR <- STR ? STR", "nvl2({s1}, {s2}, {s1})"),
    (.binary .and, "CLOB <- STR ? CLOB",
      "(case when {s1} is not null then {s2} else to_clob({s1}) end)"),
    (.binary .and, "CLOB <- CLOB ? CLOB",
      "(case when {s1} is not null and length({s1}) != 0 then {s2} else {s1} end)"),
    (.binary .and, "CLOB <- CLOB ? STR",
      "(case when {s1} is not null and length({s1}) != 0 then to_clob({s2}) else {s1} end)"),
    (.binary .and, "T1 <- DATE_DATETIME ? T1", "nvl2({s1}, {s2}, {s1})"),
    (.binary .and, "T1 <- DATEDELTA_DATETIMEDELTA_MONTHDELTA ? T1",
      "(case when nvl({s1}, 0) != 0 then {s2} else {s1} end)"),
    (.binary .and, s!"T1 <- {anyList} ? T1",
      "(case when nvl(vsqlimpl_pkg.len_{t1}({s1}), 0) != 0 then {s2} else {s1} end)"),
    (.binary .and, "DATETIMELIST <- DATELIST_DATETIMELIST ? DATELIST_DATETIMELIST",
      "(case when nvl(vsqlimpl_pkg.len_{t1}({s1}), 0) != 0 then {s2} else {s1} end)"),
    (.binary .and, "NULLLIST <- NULLLIST ? NULLLIST",
      "(case when nvl({s1}, 0) != 0 then {s2} else {s1} end)"),
    (.binary .and, s!"T2 <- NULLLIST ? {anyList}",
      "(case when nvl({s1}, 0) != 0 then {s2} else vsqlimpl_pkg.{t2}_fromlen({s1}) end)"),
    (.binary .and, s!"T1 <- {anyList} ? NULLLIST",
      "(case when nvl(vsqlimpl_pkg.len_{t1}({s1}), 0) != 0 then vsqlimpl_pkg.{t1}_fromlen({s2}) else {s1} end)"),
    (.binary .or, s!"T1 <- {anyType} ? NULL", "{s1}"),
    (.binary .or, s!"T2 <- NULL ? {anyType}", "{s2}"),
    (.binary .or, "BOOL <- BOOL ? BOOL", "(case when {s1} = 1 then 1 else {s2} end)"),
    (.binary .or, s!"INT <- {intLike} ? {intLike}",
      "(case when nvl({s1}, 0) != 0 then {s1} else {s2} end)"),
    (.binary .or, s!"NUMBER <- {numberLike} ? {numberLike}",
      "(case when nvl({s1}, 0) != 0 then {s1} else {s2} end)"),
    (.binary .or, "STR <- STR ? STR", "nvl({s1}, {s2})"),
    (.binary .or, "CLOB <- STR ? CLOB",
      "(case when {s1} is not null then to_clob({s1}) else {s2} end)"),
    (.binary .or, "CLOB <- CLOB ? CLOB",
      "(case when {s1} is not null and length({s1}) != 0 then {s1} else {s2} end)"),
    (.binary .or, "CLOB <- CLOB ? STR",
      "(case when {s1} is not null and length({s1}) != 0 then {s1} else to_clob({s2}) end)"),
    (.binary .or, "T1 <- DATE_DATETIME ? T1", "nvl({s1}, {s2})"),
    (.binary .or, "T1 <- DATEDELTA_DATETIMEDELTA_MONTHDELTA ? T1",
      "(case when nvl({s1}, 0) != 0 then {s1} else {s2} end)"),
    (.binary .or, s!"T1 <- {anyList} ? T1",
      "(case when nvl(vsqlimpl_pkg.len_{t1}({s1}), 0) != 0 then {s1} else {s2} end)"),
    (.binary .or, "DATETIMELIST <- DATELIST_DATETIMELIST ? DATELIST_DATETIMELIST",
      "(case when nvl(vsqlimpl_pkg.len_{t1}({s1}), 0) != 0 then {s1} else {s2} end)"),
    (.binary .or, "NULLLIST <- NULLLIST ? NULLLIST",
      "(case when nvl({s1}, 0) != 0 then {s1} else {s2} end)"),
    (.binary .or, s!"T2 <- NULLLIST ? {anyList}",
      "(case when nvl({s1}, 0) != 0 then vsqlimpl_pkg.{t2}_fromlen({s1}) else {s2} end)"),
    (.binary .or, s!"T1 <- {anyList} ? NULLLIST",
      "(case when nvl(vsqlimpl_pkg.len_{t1}({s1}), 0) != 0 then {s1} else vsqlimpl_pkg.{t1}_fromlen({s2}) end)") ]

/-- Membership, and tests for the missing value. -/
def membershipRules : List (NodeType × String × String) :=
  [ (.binary .contains, s!"BOOL <- NULL ? {anyList}_NULLLIST",
      "vsqlimpl_pkg.contains_null_{t2}({s2})"),
    (.binary .contains, "BOOL <- STR_CLOB ? STR_CLOB_STRLIST_CLOBLIST_STRSET",
      "vsqlimpl_pkg.contains_{t1}_{t2}({s1}, {s2})"),
    (.binary .contains, "BOOL <- INT_NUMBER ? INTLIST_NUMBERLIST_INTSET_NUMBERSET",
      "vsqlimpl_pkg.contains_{t1}_{t2}({s1}, {s2})"),
    (.binary .contains, "BOOL <- DATE ? DATELIST_DATESET",
      "vsqlimpl_pkg.contains_{t1}_{t2}({s1}, {s2})"),
    (.binary .contains, "BOOL <- DATETIME ? DATETIMELIST_DATETIMESET",
      "vsqlimpl_pkg.contains_{t1}_{t2}({s1}, {s2})"),
    (.binary .contains, s!"BOOL <- {anyType} ? NULLLIST",
      "case when {s1} is null then vsqlimpl_pkg.contains_null_nulllist({s2}) else 0 end"),
    (.binary .notContains, s!"BOOL <- NULL ? {anyList}_NULLLIST",
      "(1 - vsqlimpl_pkg.contains_null_{t2}({s2}))"),
    (.binary .notContains, "BOOL <- STR_CLOB ? STR_CLOB_STRLIST_CLOBLIST_STRSET",
      "(1 - vsqlimpl_pkg.contains_{t1}_{t2}({s1}, {s2}))"),
    (.binary .notContains, "BOOL <- INT_NUMBER ? INTLIST_NUMBERLIST_INTSET_NUMBERSET",
      "(1 - vsqlimpl_pkg.contains_{t1}_{t2}({s1}, {s2}))"),
    (.binary .notContains, "BOOL <- DATE ? DATELIST_DATESET",
      "(1 - vsqlimpl_pkg.contains_{t1}_{t2}({s1}, {s2}))"),
    (.binary .notContains, "BOOL <- DATETIME ? DATETIMELIST_DATETIMESET",
      "(1 - vsqlimpl_pkg.contains_{t1}_{t2}({s1}, {s2}))"),
    (.binary .notContains, s!"BOOL <- {anyType} ? NULLLIST",
      "case when {s1} is null then 1 - vsqlimpl_pkg.contains_null_nulllist({s2}) else 1 end"),
    (.binary .is, "BOOL <- NULL ? NULL", "1"),
    (.binary .is, s!"BOOL <- {anyType} ? NULL", "(case when {s1} is null then 1 else 0 end)"),
    (.binary .is, s!"BOOL <- NULL ? {anyType}", "(case when {s2} is null then 1 else 0 end)"),
    (.binary .isNot, "BOOL <- NULL ? NULL", "0"),
    (.binary .isNot, s!"BOOL <- {anyType} ? NULL",
      "(case when {s1} is not null then 1 else 0 end)"),
    (.binary .isNot, s!"BOOL <- NULL ? {anyType}",
      "(case when {s2} is not null then 1 else 0 end)") ]

/-- Items of texts and lists. -/
def itemRules : List (NodeType × String × String) :=
  [ (.binary .item, s!"NULL <- NULLLIST[{intLike}]", "null"),
    (.binary .item, s!"STR <- STR_CLOB_STRLIST[{intLike}]", "vsqlimpl_pkg.item_{t1}({s1}, {s2})"),
    (.binary .item, s!"CLOB <- CLOBLIST[{intLike}]", "vsqlimpl_pkg.item_{t1}({s1}, {s2})"),
    (.binary .item, s!"INT <- INTLIST[{intLike}]", "vsqlimpl_pkg.item_{t1}({s1}, {s2})"),
    (.binary .item, s!"NUMBER <- NUMBERLIST[{intLike}]", "vsqlimpl_pkg.item_{t1}({s1}, {s2})"),
    (.binary .item, s!"DATE <- DATELIST[{intLike}]", "vsqlimpl_pkg.item_{t1}({s1}, {s2})"),
    (.binary .item, s!"DATETIME <- DATETIMELIST[{intLike}]", "vsqlimpl_pkg.item_{t1}({s1}, {s2})") ]

/-- Operations on bits and sets. -/
def bitRules : List (NodeType × String × String) :=
  [ (.binary .bitAnd, s!"INT <- {intLike} & {intLike}", "bitand({s1}, {s2})"),
    (.binary .bitAnd, "T1 <- INTSET & INTSET", "vsqlimpl_pkg.bitand_intset({s1}, {s2})"),
    (.binary .bitAnd, "T1 <- NUMBERSET & NUMBERSET", "vsqlimpl_pkg.bitand_numberset({s1}, {s2})"),
    (.binary .bitAnd, "T1 <- STRSET & STRSET", "vsqlimpl_pkg.bitand_strset({s1}, {s2})"),
    (.binary .bitAnd, "T1 <- DATESET_DATETIMESET & T1",
      "vsqlimpl_pkg.bitand_datetimeset({s1}, {s2})"),
    (.binary .bitOr, s!"INT <- {intLike} | {intLike}", "vsqlimpl_pkg.bitor_int({s1}, {s2})"),
    (.binary .bitOr, "T1 <- INTSET | INTSET", "vsqlimpl_pkg.bitor_intset({s1}, {s2})"),
    (.binary .bitOr, "T1 <- NUMBERSET | NUMBERSET", "vsqlimpl_pkg.bitor_numberset({s1}, {s2})"),
    (.binary .bitOr, "T1 <- STRSET | STRSET", "vsqlimpl_pkg.bitor_strset({s1}, {s2})"),
    (.binary .bitOr, "T1 <- DATESET_DATETIMESET | T1",
      "vsqlimpl_pkg.bitor_datetimeset({s1}, {s2})"),
    (.binary .bitXor, s!"INT <- {intLike} ^ {intLike}", "vsqlimpl_pkg.bitxor_int({s1}, {s2})") ]

/-- Operators with one operand. -/
def unaryRules : List (NodeType × String × String) :=
  [ (.unary .not, "BOOL <- ? NULL", "1"),
    (.unary .not, "BOOL <- ? BOOL", "(case {s1} when 1 then 0 else 1 end)"),
    (.unary .not, "BOOL <- ? INT_NUMBER_DATEDELTA_DATETIMEDELTA_MONTHDELTA",
      "(case nvl({s1}, 0) when 0 then 1 else 0 end)"),
    (.unary .not, "BOOL <- ? DATE_DATETIME_STR_COLOR_GEO",
      "(case when {s1} is null then 1 else 0 end)"),
    (.unary .not, s!"BOOL <- ? {anyType}", "(1 - vsqlimpl_pkg.bool_{t1}({s1}))"),
    (.unary .neg, "INT <- BOOL", "(-{s1})"),
    (.unary .neg, "T1 <- INT_NUMBER_DATEDELTA_DATETIMEDELTA_MONTHDELTA", "(-{s1})"),
    (.unary .bitNot, s!"INT <- {intLike}", "(-{s1} - 1)") ]

/-- The conditional expression. -/
def choiceRules : List (NodeType × String × String) :=
  [ (.cond, s!"T1 <- {anyType} ? NULL ? T1", "{s3}"),
    (.cond, s!"INT <- {intLike} ? NULL ? {intLike}", "{s3}"),
    (.cond, s!"NUMBER <- {numberLike} ? NULL ? {numberLike}", "{s3}"),
    (.cond, s!"T1 <- {anyType} ? NULL ? NULL", "{s3}"),
    (.cond, s!"T3 <- NULL ? NULL ? {anyType}", "{s3}"),
    (.cond, s!"T1 <- {anyType} ? {numberStored} ? T1",
      "(case when nvl({s2}, 0) != 0 then {s1} else {s3} end)"),
    (.cond, s!"INT <- {intLike} ? {numberStored} ? {intLike}",
      "(case when nvl({s2}, 0) != 0 then {s1} else {s3} end)"),
    (.cond, s!"NUMBER <- {numberLike} ? {numberStored} ? {numberLike}",
      "(case when nvl({s2}, 0) != 0 then {s1} else {s3} end)"),
    (.cond, s!"T1 <- {anyType} ? {numberStored} ? NULL",
      "(case when nvl({s2}, 0) != 0 then {s1} else {s3} end)"),
    (.cond, s!"T3 <- NULL ? {numberStored} ? {anyType}",
      "(case when nvl({s2}, 0) != 0 then {s1} else {s3} end)"),
    (.cond, s!"T1 <- {anyType} ? DATE_DATETIME_STR_GEO ? T1",
      "(case when {s2} is not null then {s1} else {s3} end)"),
    (.cond, s!"INT <- {intLike} ? DATE_DATETIME_STR_GEO ? {intLike}",
      "(case when {s2} is not null then {s1} else {s3} end)"),
    (.cond, s!"NUMBER <- {numberLike} ? DATE_DATETIME_STR_GEO ? {numberLike}",
      "(case when {s2} is not null then {s1} else {s3} end)"),
    (.cond, s!"T1 <- {anyType} ? DATE_DATETIME_STR_GEO ? NULL",
      "(case when {s2} is not null then {s1} else {s3} end)"),
    (.cond, s!"T3 <- NULL ? DATE_DATETIME_STR_GEO ? {anyType}",
      "(case when {s2} is not null then {s1} else {s3} end)"),
    (.cond, s!"T1 <- {anyType} ? {anyType} ? T1",
      "(case when vsqlimpl_pkg.bool_{t2}({s2}) = 1 then {s1} else {s3} end)"),
    (.cond, s!"INT <- {intLike} ? {anyType} ? {intLike}",
      "(case when vsqlimpl_pkg.bool_{t2}({s2}) = 1 then {s1} else {s3} end)"),
    (.cond, s!"NUMBER <- {numberLike} ? {anyType} ? {numberLike}",
      "(case when vsqlimpl_pkg.bool_{t2}({s2}) = 1 then {s1} else {s3} end)"),
    (.cond, s!"T1 <- {anyType} ? {anyType} ? NULL",
      "(case when vsqlimpl_pkg.bool_{t2}({s2}) = 1 then {s1} else {s3} end)"),
    (.cond, s!"T3 <- NULL ? {anyType} ? {anyType}",
      "(case when vsqlimpl_pkg.bool_{t2}({s2}) = 1 then {s1} else {s3} end)") ]

/-- Slices of texts and lists. -/
def sliceRules : List (NodeType × String × String) :=
  [ (.slice, s!"T1 <- {textLike}_{anyList}[NULL_{intLike}:NULL_{intLike}]",
      "vsqlimpl_pkg.slice_{t1}({s1}, {s2}, {s3})"),
    (.slice, s!"NULLLIST <- NULLLIST[NULL_{intLike}:NULL_{intLike}]",
      "vsqlimpl_pkg.slice_{t1}({s1}, {s2}, {s3})") ]

/-- All standard rules. -/
def table : List (NodeType × String × String) :=
  constantRules ++ conversionRules ++ functionRules ++ requestRules ++
    methodRules ++ attributeRules ++ equalityRules ++ orderRules ++
    arithmeticRules ++ logicRules ++ membershipRules ++ itemRules ++
    bitRules ++ unaryRules ++ choiceRules ++ sliceRules

end Standard

/-- The registry of the standard rules. -/
def Registry.standard : Registry := .ofTable Standard.table

end QueryExpr
